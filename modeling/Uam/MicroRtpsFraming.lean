import Mathlib.Data.List.GetD
import Uam.MicroRtps

/-! What a node receives from a stream of frames, cut anywhere. A frame of another system is taken
out as a whole; of an own frame only the first byte is dropped, and the search goes on inside. -/
namespace AerialManipulator
open Bytes MicroRtps Header Runs

structure RtpsFrame where
  sysId : Byte
  seq : Byte
  topicId : Byte
  payload : List Byte

namespace RtpsFrame

def bytes (f : RtpsFrame) : List Byte := (TransportNode.write ⟨f.sysId,f.seq,[]⟩ f.topicId f.payload).1

def stream (frames : List RtpsFrame) : List Byte := frames.flatMap bytes

def foreign (own : Byte) (frames : List RtpsFrame) : List (Byte × List Byte) :=
  (frames.filter fun f => f.sysId ≠ own).map fun f => (f.topicId,f.payload)

def Quiet (own : Byte) : List RtpsFrame → Prop
  | [] => True
  | f::rest => (f.sysId = own → ∀ i, 0 < i → i < f.bytes.length →
      TransportNode.markerAt (stream (f::rest)) i = false) ∧ Quiet own rest

end RtpsFrame

def TransportRead.message (result : TransportRead) : Option (Byte × List Byte) :=
  if result.ret > 0 then some (result.topicId,result.outBuffer) else none

namespace RtpsFrame

structure Framed (own : Byte) (bufferLen : Nat) (frames : List RtpsFrame) : Prop where
  quiet : Quiet own frames
  fits : ∀ f ∈ frames, f.bytes.length ≤ bufferLen ∧ f.bytes.length ≤ bufferSize

end RtpsFrame

structure Reception where
  node : TransportNode
  rest : List Byte

namespace Reception

def receive (bufferLen : Nat) (r : Reception) (call : Option Nat) : Option (Byte × List Byte) × Reception :=
  let result := r.node.read bufferLen (call.map r.rest.take)
  (result.message,
    ⟨result.node,r.rest.drop (call.elim 0 fun size => min size (bufferSize-r.node.rxBuffer.length))⟩)

def messages (own : Byte) (bufferLen : Nat) (frames : List RtpsFrame) (calls : List (Option Nat)) :
    List (Byte × List Byte) :=
  (outputs (receive bufferLen) ⟨.new own,RtpsFrame.stream frames⟩ calls).reduceOption

/-- Only messages of other systems are returned, in order, and all once `node_read` was called often enough. -/
def Transparent (own : Byte) (bufferLen : Nat) (frames : List RtpsFrame) : Prop :=
  ∀ calls, messages own bufferLen frames calls <+: RtpsFrame.foreign own frames ∧
    (2 * (RtpsFrame.stream frames).length < calls.countP (fun call => call.any (0 < ·)) →
      messages own bufferLen frames calls = RtpsFrame.foreign own frames)

end Reception

namespace TransportNode

lemma markerAt_append {buffer more : List Byte} (inside : i+3 ≤ buffer.length) :
    markerAt (buffer ++ more) i = markerAt buffer i := by
  have same : ((buffer ++ more).drop i).take 3 = (buffer.drop i).take 3 := slice_append_left more inside
  rw [markerAt,markerAt,same]

lemma markerAt_drop (buffer : List Byte) (n i : Nat) : markerAt (buffer.drop n) i = markerAt buffer (n+i) := by
  rw [markerAt,markerAt,List.drop_drop]

end TransportNode

namespace RtpsFrame
variable (f : RtpsFrame)

def header : Header :=
  ⟨f.topicId,f.sysId,f.seq,BitVec.ofNat 8 (f.payload.length >>> 8),BitVec.ofNat 8 f.payload.length,
    (crc16 f.payload >>> 8).truncate 8,(crc16 f.payload).truncate 8⟩

lemma bytes_eq : f.bytes = f.header.bytes ++ f.payload := rfl

lemma length_bytes : f.bytes.length = size+f.payload.length := by
  rw [bytes_eq,List.length_append]
  rfl

lemma stream_cons (rest : List RtpsFrame) : stream (f::rest) = f.bytes ++ stream rest := List.flatMap_cons

lemma size_le_stream (some : frames ≠ []) : size ≤ (stream frames).length := by
  obtain ⟨f,more,rfl⟩ := List.exists_cons_of_ne_nil some
  rw [stream_cons,List.length_append,length_bytes,Nat.add_assoc]
  exact Nat.le_add_right _ _

lemma markerAt_stream (rest : List RtpsFrame) : TransportNode.markerAt (stream (f::rest)) 0 := by
  rw [stream_cons,bytes_eq]
  rfl

lemma payloadLen_header (short : f.payload.length < 65536) : f.header.payloadLen = f.payload.length := by
  rw [payloadLen,header]
  simp only [BitVec.toNat_ofNat,Nat.shiftRight_eq_div_pow]
  rw [← Nat.shiftLeft_add_eq_or_of_lt (Nat.mod_lt _ (by decide)),Nat.shiftLeft_eq]
  omega

lemma crc_header : f.header.crc = crc16 f.payload := by
  rw [crc,header]
  generalize crc16 f.payload = crc
  apply BitVec.eq_of_getLsbD_eq
  intro i inside
  by_cases low : i < 8
  · simp [low,inside]
  · have high : i-8 < 8 := by omega
    have back : 8+(i-8) = i := by omega
    simp [low,inside,high,back]

variable {more : List RtpsFrame}

lemma ofBytes_eq (same : buffer ++ rest = before ++ stream (f::more)) (inside : before.length + size ≤ buffer.length) :
    ofBytes buffer before.length = f.header := by
  have there : ∀ k < size, buffer.getD (before.length+k) 0 = f.header.bytes.getD k 0 := by
    intro k within
    have within_buffer : before.length+k < buffer.length := by omega
    rw [← List.getD_append buffer rest 0 _ within_buffer,same,
      List.getD_append_right _ _ _ _ (Nat.le_add_right _ _),Nat.add_sub_cancel_left,stream_cons,bytes_eq,
      List.append_assoc,List.getD_append _ _ _ _ within]
  rw [ofBytes,there 3 (by decide),there 4 (by decide),there 5 (by decide),there 6 (by decide),
    there 7 (by decide),there 8 (by decide),there 9 (by decide)]
  rfl

lemma slice_payload (same : buffer ++ rest = before ++ stream (f::more))
    (inside : before.length+size+f.payload.length ≤ buffer.length) :
    slice buffer (before.length+size) f.payload.length = f.payload := by
  rw [← slice_append_left rest inside,same,slice_append_right,stream_cons,bytes_eq,List.append_assoc]
  have behind : size = f.header.bytes.length+0 := rfl
  rw [behind,slice_append_right,slice,List.drop_zero,List.take_left]

lemma foreign_cons (own : Byte) (more : List RtpsFrame) :
    foreign own (f::more) = (if f.sysId = own then [] else [(f.topicId,f.payload)]) ++ foreign own more := by
  by_cases ours : f.sysId = own
  all_goals simp [foreign,ours]

lemma Framed.tail (framed : Framed own bufferLen (f::more)) : Framed own bufferLen more :=
  ⟨framed.quiet.2,fun g member => framed.fits g (List.mem_cons_of_mem f member)⟩

end RtpsFrame

namespace TransportNode
open RtpsFrame

lemma readMessage_frame {node : TransportNode} (same : node.rxBuffer ++ rest = before ++ stream (f::more))
    (inside : before.length+size ≤ node.rxBuffer.length) (fits : f.bytes.length ≤ bufferLen)
    (short : f.payload.length < 65536) :
    (readMessage bufferLen before.length node).message =
        (if f.sysId = node.sysId ∨ node.rxBuffer.length < before.length+f.bytes.length then none
          else some (f.topicId,f.payload)) ∧
      (readMessage bufferLen before.length node).node = node.drop (before.length+if f.sysId = node.sysId then 1
        else if node.rxBuffer.length < before.length+f.bytes.length then 0 else f.bytes.length) := by
  have length := f.length_bytes
  rw [readMessage,f.ofBytes_eq same inside]
  rw [f.payloadLen_header short]
  split
  next ours =>
    have ours : f.sysId = node.sysId := ours
    rw [if_pos (Or.inl ours),if_pos ours]
    exact ⟨rfl,rfl⟩
  next theirs =>
    have theirs : f.sysId ≠ node.sysId := theirs
    rw [if_neg theirs,if_neg (by omega)]
    split
    next incomplete =>
      have open_ : node.rxBuffer.length < before.length+f.bytes.length := by omega
      rw [if_pos (Or.inr open_),if_pos open_,Nat.add_zero]
      split
      · exact ⟨rfl,rfl⟩
      next first =>
        have nothing : before.length = 0 := by omega
        rw [nothing]
        exact ⟨rfl,rfl⟩
    next complete =>
      have closed : ¬node.rxBuffer.length < before.length+f.bytes.length := by omega
      rw [f.crc_header,f.slice_payload same (by omega),if_neg (fun differ => differ rfl),
        if_neg (not_or.mpr ⟨theirs,closed⟩),if_neg closed,length,← Nat.add_assoc]
      refine ⟨if_pos ?_,rfl⟩
      simp only [size]
      omega

end TransportNode

namespace Reception
open RtpsFrame TransportNode

structure Pending (own : Byte) (junk : List Byte) (frames : List RtpsFrame) (r : Reception) : Prop where
  sysId : r.node.sysId = own
  held : r.node.rxBuffer.length ≤ bufferSize
  same : r.node.rxBuffer ++ r.rest = junk ++ stream frames
  silent : ∀ i < junk.length, markerAt (junk ++ stream frames) i = false

variable {own : Byte} {junk : List Byte} {frames : List RtpsFrame} {r : Reception} {bufferLen : Nat}

def fill (size : Nat) (r : Reception) : Reception :=
  ⟨r.node.append (r.rest.take size),r.rest.drop (min size (bufferSize-r.node.rxBuffer.length))⟩

section
variable (pending : Pending own junk frames r)
include pending

lemma Pending.fill (size : Nat) : Pending own junk frames (r.fill size) := by
  refine ⟨pending.sysId,(append_length _ pending.held).2,?_,pending.silent⟩
  rw [Reception.fill,TransportNode.append,List.take_take,List.append_assoc,min_comm,List.take_append_drop]
  exact pending.same

lemma Pending.dropped
    (inside : n ≤ r.node.rxBuffer.length) (left : (junk ++ stream frames).drop n = junk' ++ stream frames')
    (silent : ∀ i < junk'.length, markerAt (junk' ++ stream frames') i = false) :
    Pending own junk' frames' ⟨r.node.drop n,r.rest⟩ := by
  refine ⟨pending.sysId,?_,?_,silent⟩
  · rw [length_drop]
    exact (Nat.sub_le _ _).trans pending.held
  · rw [← left,← pending.same,List.drop_append_of_le_length inside]
    rfl

lemma Pending.skip (inside : n ≤ r.node.rxBuffer.length)
    (before : n ≤ junk.length) : Pending own (junk.drop n) frames ⟨r.node.drop n,r.rest⟩ := by
  have left : (junk ++ stream frames).drop n = junk.drop n ++ stream frames := List.drop_append_of_le_length before
  apply pending.dropped inside left
  intro i within
  rw [List.length_drop] at within
  rw [← left,markerAt_drop]
  exact pending.silent _ (by omega)

lemma Pending.markerAt_eq (inside : i+3 ≤ r.node.rxBuffer.length) :
    markerAt r.node.rxBuffer i = markerAt (junk ++ stream frames) i := by
  rw [← pending.same,markerAt_append inside]

lemma Pending.msgStartPos_le (some : frames ≠ []) (inside : junk.length+size ≤ r.node.rxBuffer.length) :
    msgStartPos r.node.rxBuffer ≤ junk.length := by
  obtain ⟨f,more,rfl⟩ := List.exists_cons_of_ne_nil some
  rw [← not_lt]
  intro beyond
  have here : markerAt (junk ++ stream (f::more)) junk.length := by
    rw [← Nat.add_zero junk.length,← markerAt_drop,List.drop_left,markerAt_stream]
  rw [← pending.markerAt_eq (le_trans (Nat.add_le_add_left (by decide) _) inside),not_markerAt_of_lt beyond] at here
  exact Bool.false_ne_true here

lemma Pending.msgStartPos_eq (found : msgStartPos r.node.rxBuffer+size ≤ r.node.rxBuffer.length) :
    frames ≠ [] ∧ msgStartPos r.node.rxBuffer = junk.length := by
  have marked := markerAt_msgStartPos found
  rw [pending.markerAt_eq (le_trans (Nat.add_le_add_left (by decide) _) found)] at marked
  have behind : junk.length ≤ msgStartPos r.node.rxBuffer := by
    rw [← not_lt]
    intro before
    exact Bool.false_ne_true ((pending.silent _ before).symm.trans marked)
  have some : frames ≠ [] := by
    intro none
    have total := congrArg List.length pending.same
    rw [none,List.length_append,List.length_append] at total
    simp only [stream,List.flatMap_nil,List.length_nil,size] at total found
    omega
  exact ⟨some,le_antisymm (pending.msgStartPos_le some (by omega)) behind⟩

end

lemma Pending.readMessage (pending : Pending own junk (f::more) r)
    (framed : Framed own bufferLen (f::more)) (inside : junk.length+size ≤ r.node.rxBuffer.length) :
    ∃ junk' frames', Pending own junk' frames' ⟨(readMessage bufferLen junk.length r.node).node,r.rest⟩ ∧
      Framed own bufferLen frames' ∧
      foreign own (f::more) = (readMessage bufferLen junk.length r.node).message.toList ++ foreign own frames' ∧
      (r.rest = [] ∨ r.node.rxBuffer.length = bufferSize →
        (TransportNode.readMessage bufferLen junk.length r.node).node.rxBuffer.length < r.node.rxBuffer.length) := by
  obtain ⟨small,whole⟩ := framed.fits f List.mem_cons_self
  have length := f.length_bytes
  have positive : 0 < size := by decide
  obtain ⟨message,node⟩ := readMessage_frame pending.same inside small (by simp only [bufferSize] at whole; omega)
  have total := congrArg List.length pending.same
  rw [stream_cons,List.length_append,List.length_append,List.length_append] at total
  rw [message,node,pending.sysId,length_drop]
  have rest {n : Nat} : (junk ++ stream (f::more)).drop (junk.length + n) = (f.bytes ++ stream more).drop n := by
    rw [← List.drop_drop,List.drop_left,stream_cons]
  by_cases ours : f.sysId = own
  · rw [if_pos (Or.inl ours),if_pos ours]
    have left : (f.bytes ++ stream more).drop 1 = f.bytes.drop 1 ++ stream more := rfl
    refine ⟨f.bytes.drop 1,more,pending.dropped (by omega) (rest.trans left) ?_,framed.tail,?_,by omega⟩
    · intro i within
      rw [List.length_drop] at within
      rw [← left,markerAt_drop,← stream_cons]
      exact framed.quiet.1 ours _ (by omega) (by omega)
    · rw [foreign_cons,if_pos ours]
      rfl
  rw [if_neg ours]
  by_cases incomplete : r.node.rxBuffer.length < junk.length+f.bytes.length
  · rw [if_pos (Or.inr incomplete),if_pos incomplete]
    refine ⟨_,f::more,pending.skip (by omega) le_rfl,framed,rfl,fun still => ?_⟩
    rcases still with finished | full
    · rw [finished,List.length_nil] at total
      omega
    · omega
  · rw [if_neg (not_or.mpr ⟨ours,incomplete⟩),if_neg incomplete]
    refine ⟨[],more,pending.dropped (by omega) (rest.trans List.drop_left) ?_,framed.tail,?_,by omega⟩
    · intro i within
      cases within
    · rw [foreign_cons,if_neg ours]
      rfl

lemma Pending.readBuffer (pending : Pending own junk frames r) (framed : Framed own bufferLen frames) :
    ∃ junk' frames', Pending own junk' frames' ⟨(readBuffer bufferLen r.node).node,r.rest⟩ ∧
      Framed own bufferLen frames' ∧
      foreign own frames = (readBuffer bufferLen r.node).message.toList ++ foreign own frames' ∧
      (frames ≠ [] → r.rest = [] ∨ r.node.rxBuffer.length = bufferSize →
        (TransportNode.readBuffer bufferLen r.node).node.rxBuffer.length < r.node.rxBuffer.length) := by
  have total := congrArg List.length pending.same
  rw [List.length_append,List.length_append] at total
  rw [TransportNode.readBuffer]
  dsimp only
  split
  next short =>
    refine ⟨junk,frames,pending,framed,rfl,fun some still => ?_⟩
    have large := size_le_stream some
    rcases still with finished | full
    · rw [finished,List.length_nil] at total
      omega
    · simp only [bufferSize,size] at full short
      omega
  next long =>
    split
    next missing =>
      have bound := TransportNode.msgStartPos_le r.node.rxBuffer
      have positive : 0 < size := by decide
      have before : msgStartPos r.node.rxBuffer ≤ junk.length := by
        by_cases some : frames = []
        · rw [some] at total
          simp only [stream,List.flatMap_nil,List.length_nil] at total
          omega
        · by_contra beyond
          have early := pending.msgStartPos_le some
          omega
      refine ⟨_,frames,pending.skip (by omega) before,framed,rfl,fun _ _ => ?_⟩
      rw [length_drop]
      omega
    next found =>
      obtain ⟨some,start⟩ := pending.msgStartPos_eq (by omega)
      obtain ⟨f,more,rfl⟩ := List.exists_cons_of_ne_nil some
      rw [start]
      obtain ⟨junk',frames',left,framed',split,smaller⟩ := pending.readMessage framed (by omega)
      exact ⟨junk',frames',left,framed',split,fun _ => smaller⟩

def work (r : Reception) : Nat := 2 * r.rest.length + r.node.rxBuffer.length

lemma work_fill (size : Nat) :
    (r.fill size).work+min (min size (bufferSize-r.node.rxBuffer.length)) r.rest.length = r.work := by
  simp only [work,fill,TransportNode.append,List.length_drop,List.length_append,List.length_take]
  omega

lemma fill_of_work_eq {size : Nat} (positive : 0 < size) (held : r.node.rxBuffer.length ≤ bufferSize)
    (same : (r.fill size).work = r.work) :
    (r.fill size).rest = [] ∨ (r.fill size).node.rxBuffer.length = bufferSize := by
  have read := r.work_fill size
  simp only [fill,TransportNode.append,List.drop_eq_nil_iff,List.length_append,List.length_take]
  omega

section
variable (pending : Pending own junk frames r) (framed : Framed own bufferLen frames)
include pending framed

lemma Pending.receive (call : Option Nat) :
    ∃ junk' frames', Pending own junk' frames' (receive bufferLen r call).2 ∧ Framed own bufferLen frames' ∧
      foreign own frames = (receive bufferLen r call).1.toList ++ foreign own frames' ∧
      (Reception.receive bufferLen r call).2.work ≤ r.work ∧
      (frames ≠ [] → call.any (0 < ·) → (Reception.receive bufferLen r call).2.work < r.work) := by
  cases call with
  | none => exact ⟨junk,frames,pending,framed,rfl,le_rfl,fun _ failed => absurd failed Bool.false_ne_true⟩
  | some size =>
    obtain ⟨junk',frames',left,framed',split,smaller⟩ := (pending.fill size).readBuffer framed
    have read := r.work_fill size
    have kept := (readBuffer_length bufferLen (r.fill size).node).1
    have after : (Reception.receive bufferLen r (some size)).2.work = 2 * (r.fill size).rest.length +
        (TransportNode.readBuffer bufferLen (r.fill size).node).node.rxBuffer.length := rfl
    have before : (r.fill size).work = 2 * (r.fill size).rest.length + (r.fill size).node.rxBuffer.length := rfl
    refine ⟨junk',frames',left,framed',split,by omega,fun some called => ?_⟩
    by_cases same : (r.fill size).work = r.work
    · have less := smaller some (fill_of_work_eq (of_decide_eq_true called) pending.held same)
      omega
    · omega

lemma Pending.outputs (calls : List (Option Nat)) :
    ∃ missing, foreign own frames = (outputs (Reception.receive bufferLen) r calls).reduceOption ++ missing ∧
      (r.work < calls.countP (fun call => call.any (0 < ·)) → missing = []) := by
  induction calls generalizing junk frames r with
  | nil => exact ⟨foreign own frames,rfl,fun less => absurd less (Nat.not_lt_zero _)⟩
  | cons call calls ih =>
    obtain ⟨junk',frames',left,framed',split,kept,less⟩ := pending.receive framed call
    obtain ⟨missing,rest,enough⟩ := ih left framed'
    have answers : (outputs (Reception.receive bufferLen) r (call::calls)).reduceOption ++ missing =
        (Reception.receive bufferLen r call).1.toList ++ foreign own frames' := by
      rw [rest,← List.append_assoc,outputs]
      cases (Reception.receive bufferLen r call).1 with
      | none | some message => rfl
    refine ⟨missing,split.trans answers.symm,fun many => ?_⟩
    by_cases none : frames = []
    · have nothing := split.trans answers.symm
      rw [none] at nothing
      exact (List.append_eq_nil_iff.mp nothing.symm).2
    · apply enough
      rw [List.countP_cons] at many
      by_cases called : call.any (0 < ·) = true
      · have fewer := less none called
        rw [if_pos called] at many
        omega
      · rw [if_neg called] at many
        omega

end

/-- If every frame fits and no marker starts inside of an own one, the node is
transparent, however the stream is cut. -/
theorem transparent_of_framed (framed : Framed own bufferLen frames) : Transparent own bufferLen frames := by
  intro calls
  have start : Pending own [] frames ⟨.new own,stream frames⟩ :=
    ⟨rfl,Nat.zero_le _,rfl,fun i within => absurd within (Nat.not_lt_zero i)⟩
  obtain ⟨missing,split,enough⟩ := start.outputs framed calls
  refine ⟨⟨missing,split.symm⟩,fun many => ?_⟩
  rw [split,enough many,List.append_nil]
  rfl

theorem not_transparent_nested : let inner : RtpsFrame := ⟨2,0,7,[5]⟩
    let outer : RtpsFrame := ⟨1,0,9,inner.bytes⟩
    ¬ Transparent 1 1024 [outer] := by
  intro inner outer transparent
  have returned : messages 1 1024 [outer] [some 100,some 100] = [(7,[5])] := by decide +kernel
  have expected : foreign 1 [outer] = [] := by decide +kernel
  have allowed := (transparent [some 100,some 100]).1
  rw [returned,expected] at allowed
  exact absurd (List.prefix_nil.mp allowed) (List.cons_ne_nil _ _)

theorem transparent_of_framed_two : let frames : List RtpsFrame := [⟨1,0,9,[5,62,62,6]⟩,⟨2,0,7,[62,62,62]⟩]
    Framed 1 1024 frames ∧ foreign 1 frames = [(7,[62,62,62])] ∧ Transparent 1 1024 frames := by
  intro frames
  have silent : ∀ i < 14, 0 < i → markerAt (stream frames) i = false := by decide +kernel
  have framed : Framed 1 1024 frames := by
    refine ⟨⟨fun _ i positive inside => silent i inside positive,fun ours => ?_,trivial⟩,by decide +kernel⟩
    exact absurd ours (by decide)
  exact ⟨framed,by decide +kernel,transparent_of_framed framed⟩

end Reception
end AerialManipulator
