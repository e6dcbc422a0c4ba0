import Uam.Uavcan

/-! What `uavcan_rx_dsdl` makes of the frames of `uavcan_tx_dsdl`, staying in step with the sender. -/
namespace AerialManipulator.Uavcan
open Bytes List
open Poll (frame)

lemma Tail.ofByte_byte (t : Tail) : Tail.ofByte t.byte = t := by
  obtain ⟨transferId,toggle,eot,sot⟩ := t
  revert transferId toggle eot sot
  decide

@[simp] lemma uavcanTx_protocol (p : Protocol) (payload : List Byte) : (uavcanTx p payload).protocol = p := by
  simp [uavcanTx,Frame.protocol,Tail.ofByte_byte]

@[simp] lemma uavcanTx_payload (p : Protocol) (payload : List Byte) : (uavcanTx p payload).payload = payload := by
  simp [uavcanTx,Frame.payload]

@[simp] lemma uavcanTx_id (p : Protocol) (payload : List Byte) : (uavcanTx p payload).id = p.id := rfl

def Protocol.ending (p : Protocol) (last : Bool) : Protocol := {p with tail := {p.tail with eot := last}}

def Protocol.next (p : Protocol) : Protocol :=
  {p with tail := {p.tail with toggle := !p.tail.toggle, sot := false}}

lemma txLoop_frame {payload : List Byte} (room : payload.length < maxUserPayloadLength) (some_left : rest ≠ [])
    (sent : (txLoop canTx rest n p payload).2 = .ok) :
    ∃ chunk remaining, rest = chunk ++ remaining ∧ chunk ≠ [] ∧ (payload ++ chunk).length ≤ maxUserPayloadLength ∧
      (remaining ≠ [] → (payload ++ chunk).length = maxUserPayloadLength) ∧
      (txLoop canTx remaining (n+1) (p.ending remaining.isEmpty).next []).2 = .ok ∧
      (txLoop canTx rest n p payload).1 = uavcanTx (p.ending remaining.isEmpty) (payload ++ chunk) ::
        (txLoop canTx remaining (n+1) (p.ending remaining.isEmpty).next []).1 := by
  induction rest generalizing p payload with
  | nil => exact absurd rfl some_left
  | cons byte rest ih =>
    have step : txLoop canTx (byte::rest) n p payload = if (payload ++ [byte]).length = maxUserPayloadLength ∨
      rest.isEmpty then if canTx n ≠ .ok then _ else _ else _ := rfl
    rw [step] at sent ⊢
    have below : (payload ++ [byte]).length ≤ maxUserPayloadLength := by simpa using Nat.succ_le_of_lt room
    by_cases emits : (payload ++ [byte]).length = maxUserPayloadLength ∨ rest.isEmpty = true
    · rw [if_pos emits] at sent ⊢
      by_cases failed : canTx n ≠ .ok
      · rw [if_pos failed] at sent
        exact absurd sent failed
      · rw [if_neg failed] at sent ⊢
        refine ⟨[byte],rest,rfl,by simp,below,?_,sent,rfl⟩
        intro more
        exact emits.resolve_right (by simpa using more)
    · rw [if_neg emits] at sent ⊢
      rw [not_or] at emits
      have more : rest ≠ [] := by simpa using emits.2
      obtain ⟨chunk,remaining,split,_,size,full,sent,frames⟩ := ih (lt_of_le_of_ne below emits.1) more sent
      refine ⟨byte::chunk,remaining,by rw [split]; rfl,by simp,?_,?_,?_,?_⟩
      · simpa using size
      · simpa using full
      · simpa [Protocol.ending] using sent
      · simpa [Protocol.ending] using frames

section
variable {dsdl : Dsdl} {room : Nat}

variable {polls : List Poll} {p : Protocol} {s : Reception} {chunk : List Byte}

lemma rxLoop_next (dsdl : Dsdl) (room : Nat) (s : Reception)
    (arriving : polls.filterMap frame = f::frames) (inTime : ∀ poll ∈ polls, poll.expired = false) :
    ∃ later : List Poll, later.filterMap frame = frames ∧ (∀ poll ∈ later, poll.expired = false) ∧
      rxLoop dsdl room polls s = if s.skips f then rxLoop dsdl room later s
        else if (s.accept room f).2 then some (finish dsdl f (s.accept room f).1)
        else rxLoop dsdl room later (s.accept room f).1 := by
  induction polls with
  | nil => cases arriving
  | cons poll rest ih =>
    obtain ⟨frame,expired⟩ := poll
    have running : expired = false := inTime _ mem_cons_self
    have later : ∀ poll ∈ rest, poll.expired = false := fun poll member => inTime poll (mem_cons_of_mem _ member)
    subst running
    cases frame with
    | none =>
      obtain ⟨polls,left,quiet,same⟩ := ih (by simpa using arriving) later
      exact ⟨polls,left,quiet,same⟩
    | some g =>
      obtain ⟨rfl,left⟩ := List.cons.inj arriving
      exact ⟨rest,left,later,rfl⟩

structure InStep (p : Protocol) (s : Reception) : Prop where
  typeId : p.id.typeId = s.protocol.id.typeId
  service : p.id.serviceNotMessage = s.protocol.id.serviceNotMessage
  source : s.masks.sourceNodeId = true → p.id.sourceNodeId = s.protocol.id.sourceNodeId
  transferId : s.masks.transferId = true → p.tail.transferId = s.protocol.tail.transferId
  toggle : p.tail.toggle = s.protocol.tail.toggle
  sot : p.tail.sot = s.protocol.tail.sot
  clean : p.tail.sot = true → p.tail.toggle = false

lemma InStep.not_skips (step : InStep p s) (last : Bool) (payload : List Byte) :
    s.skips (uavcanTx (p.ending last) payload) = false := by
  have source : (s.masks.sourceNodeId && p.id.sourceNodeId != s.protocol.id.sourceNodeId) = false := by
    cases compared : s.masks.sourceNodeId with
    | false => rfl
    | true => simp [step.source compared]
  have transferId : (s.masks.transferId && p.tail.transferId != s.protocol.tail.transferId) = false := by
    cases compared : s.masks.transferId with
    | false => rfl
    | true => simp [step.transferId compared]
  have clean : (s.protocol.tail.sot && s.protocol.tail.toggle) = false := by
    rw [← step.sot,← step.toggle]
    cases first : p.tail.sot with
    | false => rfl
    | true => simp [step.clean first]
  simp only [Reception.skips,uavcanTx_protocol,badTailState,Masks.differ,Protocol.ending,step.typeId,
    step.service,source,transferId,step.toggle,step.sot,clean]
  simp

structure Inside (p : Protocol) (s : Reception) : Prop extends InStep p s where
  later : p.tail.sot = false
  same_source : p.id.sourceNodeId = s.protocol.id.sourceNodeId
  same_transfer : p.tail.transferId = s.protocol.tail.transferId

lemma sizeSub_of_le (small : a < 4294967296) (le : b ≤ a) : sizeSub a b = a-b := by
  unfold sizeSub
  rw [Nat.add_comm,Nat.add_sub_assoc le,Nat.add_mod_left,Nat.mod_eq_of_lt (by omega)]

def Reception.add (s : Reception) (chunk : List Byte) : Reception :=
  { s with received := s.received ++ chunk
           protocol := { s.protocol with tail := { s.protocol.tail with toggle := !s.protocol.tail.toggle } } }

lemma Inside.next (inside : Inside p s) (last : Bool) (chunk : List Byte) :
    Inside (p.ending last).next (s.add chunk) where
  typeId := inside.typeId
  service := inside.service
  source _ := inside.same_source
  transferId _ := inside.same_transfer
  toggle := congrArg (!·) inside.toggle
  sot := inside.later.symm.trans inside.sot
  clean first := by cases first
  later := rfl
  same_source := inside.same_source
  same_transfer := inside.same_transfer

lemma Inside.accept (inside : Inside p s) (last : Bool)
    (small : chunk.length ≤ maxUserPayloadLength) (nonempty : chunk ≠ [])
    (fits : s.received.length+chunk.length ≤ capacity) :
    s.accept capacity (uavcanTx (p.ending last) chunk) = (s.add chunk,last) := by
  have sot : (p.ending last).tail.sot = false := inside.later
  have transferId : (p.ending last).tail.transferId = s.protocol.tail.transferId := inside.same_transfer
  have positive := length_pos_iff.mpr nonempty
  have index : Reception.payloadIndex (uavcanTx (p.ending last) chunk) = 0 := by simp [Reception.payloadIndex,sot]
  have room : ¬(s.protocol.tail.transferId > s.protocol.tail.transferId ∨ s.received.length ≥ capacity) := by
    rw [not_or]
    exact ⟨BitVec.lt_irrefl _,by omega⟩
  have length : sizeSub chunk.length 0 = chunk.length :=
    sizeSub_of_le (lt_of_le_of_lt small (by decide)) (Nat.zero_le _)
  simp only [Reception.accept,uavcanTx_protocol,sot,transferId,if_neg room,Bool.false_eq_true,if_false,
    if_neg (BitVec.lt_irrefl s.protocol.tail.transferId),Reception.copy,uavcanTx_payload,index,length,if_pos fits,
    drop_zero,take_length]
  rfl

variable {canTx : Nat → UavcanError}

lemma Inside.receives (dsdl : Dsdl)
    (inside : Inside p s) (some_left : rest ≠ []) (fits : s.received.length+rest.length ≤ capacity)
    (sent : (txLoop canTx rest n p []).2 = .ok)
    (arriving : polls.filterMap frame = (txLoop canTx rest n p []).1)
    (inTime : ∀ poll ∈ polls, poll.expired = false) :
    ∃ f t, rxLoop dsdl capacity polls s = some (finish dsdl f t) ∧ f.protocol.tail.sot = false ∧
      t.received = s.received ++ rest ∧ t.transferCrc = s.transferCrc := by
  induction size : rest.length using Nat.strong_induction_on generalizing rest n p s polls with
  | h length ih =>
    obtain ⟨chunk,remaining,split,nonempty,small,_,rest_sent,frames⟩ := txLoop_frame (by decide) some_left sent
    rw [nil_append] at small frames
    have lengths : rest.length = chunk.length+remaining.length := by rw [split,length_append]
    rw [frames] at arriving
    obtain ⟨later,left,quiet,same⟩ := rxLoop_next dsdl capacity s arriving inTime
    rw [same,if_neg (by simp [inside.not_skips]),inside.accept _ small nonempty (by omega)]
    cases remaining with
    | nil =>
      refine ⟨_,_,rfl,?_,?_,rfl⟩
      · rw [uavcanTx_protocol]
        exact inside.later
      · rw [split,append_nil]
        rfl
    | cons byte remaining =>
      have positive := length_pos_iff.mpr nonempty
      rw [if_neg (by simp)]
      have fits_later : (s.add chunk).received.length+(byte::remaining).length ≤ capacity := by
        rw [Reception.add,length_append]
        omega
      obtain ⟨f,t,result,sot,received,crc⟩ := ih _ (by omega) (inside.next _ chunk) (by simp) fits_later
        rest_sent left quiet rfl
      refine ⟨f,t,result,sot,?_,crc⟩
      rw [received,split,Reception.add,append_assoc]

structure Awaits (p : Protocol) (s : Reception) : Prop extends InStep p s where
  first : p.tail.sot = true

def Reception.begun (s : Reception) (p : Protocol) (crc : BitVec 16) : Reception :=
  { protocol :=
      { id := { s.protocol.id with sourceNodeId := p.id.sourceNodeId }
        tail := { s.protocol.tail with sot := false, transferId := p.tail.transferId } }
    masks := s.masks.startOfTransfer
    transferCrc := crc
    received := [] }

lemma Awaits.next (awaits : Awaits p s) (last : Bool) (crc : BitVec 16)
    (chunk : List Byte) : Inside (p.ending last).next ((s.begun p crc).add chunk) where
  typeId := awaits.typeId
  service := awaits.service
  source _ := rfl
  transferId _ := rfl
  toggle := congrArg (!·) awaits.toggle
  sot := rfl
  clean first := by cases first
  later := rfl
  same_source := rfl
  same_transfer := rfl

variable {payload : List Byte}

private lemma accept_start {p : Protocol} {s : Reception} (first : p.tail.sot) (last : Bool) (positive : 0 < capacity) :
    s.accept capacity (uavcanTx (p.ending last) payload) =
      ((s.startTransfer (uavcanTx (p.ending last) payload)).copy capacity (uavcanTx (p.ending last) payload),last) := by
  have sot : (p.ending last).tail.sot := first
  have same : (s.startTransfer (uavcanTx (p.ending last) payload)).protocol.tail.transferId =
      (p.ending last).tail.transferId := by
    simp [Reception.startTransfer]
  have room : ¬((p.ending last).tail.transferId > (p.ending last).tail.transferId ∨
      (s.startTransfer (uavcanTx (p.ending last) payload)).received.length ≥ capacity) := by
    rw [not_or]
    exact ⟨BitVec.lt_irrefl _,Nat.not_le.mpr positive⟩
  simp only [Reception.accept,uavcanTx_protocol,sot,if_true,same,if_neg room,
    if_neg (BitVec.lt_irrefl (p.ending last).tail.transferId)]
  rfl

lemma accept_single (first : p.tail.sot)
    (small : chunk.length ≤ maxUserPayloadLength) (nonempty : chunk ≠ []) (fits : chunk.length ≤ room) :
    s.accept room (uavcanTx (p.ending true) chunk) = ((s.begun p s.transferCrc).add chunk,true) := by
  have positive := length_pos_iff.mpr nonempty
  have index : Reception.payloadIndex (uavcanTx (p.ending true) chunk) = 0 := by
    simp [Reception.payloadIndex,Protocol.ending]
  have length : sizeSub chunk.length 0 = chunk.length :=
    sizeSub_of_le (lt_of_le_of_lt small (by decide)) (Nat.zero_le _)
  rw [accept_start first true (by omega)]
  simp only [Reception.copy,index,uavcanTx_payload,length]
  simp [Reception.startTransfer,Reception.begun,Reception.add,fits,Protocol.ending]

lemma crc_of_bytes (crc : BitVec 16) : (BitVec.zeroExtend 16 ((crc >>> 8).truncate 8 : Byte)) <<< 8 |||
      BitVec.zeroExtend 16 (crc.truncate 8 : Byte) = crc := by
  apply BitVec.eq_of_getLsbD_eq
  intro i bound
  simp only [BitVec.getLsbD_or,BitVec.getLsbD_shiftLeft,BitVec.truncate_eq_setWidth,BitVec.getLsbD_setWidth,
    BitVec.getLsbD_ushiftRight]
  by_cases low : i < 8
  · simp [low,bound]
  · have shifted : 8+(i-8) = i := by omega
    have small : i-8 < 8 := by omega
    have wide : i-8 < 16 := by omega
    simp [low,bound,shifted,small,wide]

lemma accept_first (first : p.tail.sot)
    (small : (crcBytes crc ++ chunk).length ≤ maxUserPayloadLength) (nonempty : chunk ≠ [])
    (fits : chunk.length ≤ room) :
    s.accept room (uavcanTx (p.ending false) (crcBytes crc ++ chunk)) = ((s.begun p crc).add chunk,false) := by
  have positive := length_pos_iff.mpr nonempty
  have index : Reception.payloadIndex (uavcanTx (p.ending false) (crcBytes crc ++ chunk)) = 2 := by
    simp [Reception.payloadIndex,Protocol.ending,first]
  have length : sizeSub (crcBytes crc ++ chunk).length 2 = chunk.length := by
    rw [sizeSub_of_le (lt_of_le_of_lt small (by decide)) (by simp [crcBytes])]
    simp [crcBytes]
  rw [accept_start first false (by omega)]
  simp only [Reception.copy,index,uavcanTx_payload,length]
  simp [Reception.startTransfer,Reception.begun,Reception.add,fits,Protocol.ending,crcBytes,crc_of_bytes]

lemma Awaits.receives_single
    (awaits : Awaits p s) (nonempty : payload ≠ []) (small : payload.length ≤ maxUserPayloadLength)
    (fits : payload.length ≤ room) (sent : (txLoop canTx payload 0 p []).2 = .ok)
    (arriving : polls.filterMap frame = (txLoop canTx payload 0 p []).1)
    (inTime : ∀ poll ∈ polls, poll.expired = false) :
    ∃ r, rxLoop dsdl room polls s = some r ∧ r.status = .ok ∧ r.transfer = payload ∧ r.length = payload.length := by
  obtain ⟨chunk,remaining,split,some_bytes,_,full,_,frames⟩ := txLoop_frame (by decide) nonempty sent
  have whole : remaining = [] := by
    by_contra more
    have lengths : payload.length = chunk.length+remaining.length := by rw [split,length_append]
    have positive := length_pos_iff.mpr more
    have reached : chunk.length = maxUserPayloadLength := full more
    omega
  subst whole
  rw [append_nil] at split
  subst split
  rw [frames,nil_append] at arriving
  obtain ⟨_,_,_,same⟩ := rxLoop_next dsdl room s arriving inTime
  have ending : p.ending ([] : List Byte).isEmpty = p.ending true := rfl
  rw [same,if_neg (by simp [awaits.not_skips]),ending,accept_single awaits.first small nonempty fits]
  refine ⟨_,rfl,?_,rfl,rfl⟩
  have sot : (p.ending true).tail.sot := awaits.first
  simp [finish,sot]

lemma Awaits.receives_several
    (awaits : Awaits p s) (large : maxUserPayloadLength < payload.length) (fits : payload.length ≤ capacity)
    (sent : (txLoop canTx payload 0 p (crcBytes (crc16Signature (dsdlTable dsdl).signatureCrc16 payload))).2 = .ok)
    (arriving : polls.filterMap frame = (txLoop canTx payload 0 p
      (crcBytes (crc16Signature (dsdlTable dsdl).signatureCrc16 payload))).1)
    (inTime : ∀ poll ∈ polls, poll.expired = false) :
    ∃ r, rxLoop dsdl capacity polls s = some r ∧ r.status = .ok ∧ r.transfer = payload ∧ r.length = payload.length := by
  have nonempty : payload ≠ [] := by
    intro none_left
    rw [none_left] at large
    exact absurd large (by decide)
  generalize sum : crc16Signature (dsdlTable dsdl).signatureCrc16 payload = crc at sent arriving
  obtain ⟨chunk,remaining,split,some_bytes,small,_,rest_sent,frames⟩ := txLoop_frame
    (by simp [crcBytes,maxUserPayloadLength]) nonempty sent
  have lengths : payload.length = chunk.length+remaining.length := by rw [split,length_append]
  have short : chunk.length ≤ 5 := by
    simp only [crcBytes,maxUserPayloadLength,length_append,length_cons,length_nil] at small
    omega
  rw [frames] at arriving
  obtain ⟨later,left,quiet,same⟩ := rxLoop_next dsdl capacity s arriving inTime
  cases remaining with
  | nil =>
    rw [length_nil] at lengths
    exact absurd large (by simp only [maxUserPayloadLength]; omega)
  | cons byte remaining =>
    have ending : p.ending (byte::remaining).isEmpty = p.ending false := rfl
    rw [ending] at same rest_sent left
    rw [same,if_neg (by simp [awaits.not_skips]),accept_first awaits.first small some_bytes (by omega),
      if_neg (by simp)]
    have fits_later : ((s.begun p crc).add chunk).received.length+(byte::remaining).length ≤ capacity := by
      have received : ((s.begun p crc).add chunk).received = chunk := rfl
      rw [received]
      omega
    obtain ⟨f,t,result,sot,received,kept⟩ := (awaits.next false crc chunk).receives dsdl (by simp) fits_later
      rest_sent left quiet
    have whole : t.received = payload := by
      rw [received,split]
      rfl
    refine ⟨_,result,?_,whole,by rw [finish,whole]⟩
    have checked : t.transferCrc = crc := kept
    simp [finish,whole,checked,sum]

end

lemma outtail_start (dsdl : Dsdl) : (dsdlTable dsdl).outtail.sot ∧ (dsdlTable dsdl).outtail.toggle = false := by
  cases dsdl <;> exact ⟨rfl,rfl⟩

lemma intail_start (inbound : dsdl ≠ .msgLogMessage) :
    (dsdlTable dsdl).intail.sot ∧ (dsdlTable dsdl).intail.toggle = false := by
  cases dsdl <;> first | exact ⟨rfl,rfl⟩ | exact absurd rfl inbound

lemma prototype_source (dsdl : Dsdl) : (dsdlTable dsdl).prototype.sourceNodeId = anyNodeId := by
  cases dsdl <;> rfl

section
variable (node : Node) (dsdl : Dsdl) (p : Protocol) (that : BitVec 7)

lemma loaded_out_tail : (loadDsdlProtocol node dsdl .outBound p that).tail = {(dsdlTable dsdl).outtail with
    transferId := p.tail.transferId ||| (dsdlTable dsdl).outtail.transferId} := by
  dsimp only [loadDsdlProtocol]
  split_ifs <;> rfl

lemma loaded_in_tail : (loadDsdlProtocol node dsdl .inBound p that).tail = {(dsdlTable dsdl).intail with
    transferId := p.tail.transferId ||| (dsdlTable dsdl).intail.transferId} := by
  dsimp only [loadDsdlProtocol]
  split_ifs <;> rfl

lemma loaded_service (direction : Direction) : (loadDsdlProtocol node dsdl direction p that).id.serviceNotMessage =
    (dsdlTable dsdl).prototype.serviceNotMessage := by
  cases direction <;> simp only [loadDsdlProtocol] <;> split_ifs <;> rfl

lemma loaded_typeId (direction : Direction) : (loadDsdlProtocol node dsdl direction p that).id.typeId =
    if (dsdlTable dsdl).prototype.serviceNotMessage then (dsdlTable dsdl).prototype.typeId.extractLsb' 7 9 ++
      if direction = .outBound then that else node.thisNodeId
    else (dsdlTable dsdl).prototype.typeId := by
  cases direction <;> simp only [loadDsdlProtocol,reduceCtorEq,if_true,if_false] <;> split_ifs <;> rfl

lemma loaded_out_source : (loadDsdlProtocol node dsdl .outBound p that).id.sourceNodeId = node.thisNodeId := by
  dsimp only [loadDsdlProtocol]
  split_ifs <;> rfl

lemma loaded_in_source : (loadDsdlProtocol node dsdl .inBound p that).id.sourceNodeId =
    if (dsdlTable dsdl).prototype.serviceNotMessage then that else anyNodeId := by
  rw [← prototype_source dsdl]
  dsimp only [loadDsdlProtocol]
  split_ifs <;> rfl

end

lemma initialMasks_source (compared : (initialMasks p).sourceNodeId) : p.id.sourceNodeId ≠ anyNodeId := by
  unfold initialMasks at compared
  split_ifs at compared with service anonymous
  · simpa using compared
  · exact anonymous

lemma initialMasks_transferId (p : Protocol) : (initialMasks p).transferId = false := by
  unfold initialMasks
  split_ifs <;> rfl

/-- What callers pass for a service: the destination as the source, and the node that is waited for, if any. -/
structure Addressed (dsdl : Dsdl) (sender receiver : Node) (p q : Protocol) : Prop where
  dest : (dsdlTable dsdl).prototype.serviceNotMessage = true → p.id.sourceNodeId = receiver.thisNodeId
  source : (dsdlTable dsdl).prototype.serviceNotMessage = true →
    q.id.sourceNodeId = anyNodeId ∨ q.id.sourceNodeId = sender.thisNodeId

lemma awaits_start (inbound : dsdl ≠ .msgLogMessage) (addressed : Addressed dsdl sender receiver p q) :
    Awaits (loadDsdlProtocol sender dsdl .outBound p p.id.sourceNodeId) (.start receiver dsdl q) := by
  obtain ⟨outSot,outToggle⟩ := outtail_start dsdl
  obtain ⟨inSot,inToggle⟩ := intail_start inbound
  refine ⟨⟨?_,?_,?_,?_,?_,?_,?_⟩,?_⟩
  · rw [Reception.start,loaded_typeId,loaded_typeId]
    split
    next service => rw [if_pos rfl,addressed.dest service]; rfl
    · rfl
  · rw [Reception.start,loaded_service,loaded_service]
  · intro compared
    have named := initialMasks_source compared
    rw [Reception.start,loaded_out_source]
    rw [loaded_in_source] at named ⊢
    split_ifs at named ⊢ with service
    · exact ((addressed.source service).resolve_left named).symm
    · exact absurd rfl named
  · intro compared
    have never := initialMasks_transferId (loadDsdlProtocol receiver dsdl .inBound q q.id.sourceNodeId)
    exact absurd (compared.symm.trans never) (by simp)
  · rw [Reception.start,loaded_out_tail,loaded_in_tail,outToggle,inToggle]
  · rw [Reception.start,loaded_out_tail,loaded_in_tail,outSot,inSot]
  · intro _
    rw [loaded_out_tail,outToggle]
  · rw [loaded_out_tail,outSot]

/-- Sent without a failure and received in time, a transfer of any type but the log message arrives. -/
theorem rxDsdl_of_txDsdl (canTx : Nat → UavcanError) (sender receiver : Node) (dsdl : Dsdl)
    (inbound : dsdl ≠ .msgLogMessage) (p q : Protocol) (addressed : Addressed dsdl sender receiver p q)
    (transfer : List Byte) (capacity : Nat) (nonempty : 1 ≤ transfer.length) (fits : transfer.length ≤ capacity)
    (sent : (uavcanTxDsdl canTx sender dsdl p transfer).2 = .ok) (polls : List Poll)
    (arriving : polls.filterMap Poll.frame = (uavcanTxDsdl canTx sender dsdl p transfer).1)
    (inTime : ∀ poll ∈ polls, poll.expired = false) :
    ∃ r, uavcanRxDsdl receiver dsdl q capacity polls = some r ∧ r.status = .ok ∧ r.transfer = transfer ∧
      r.length = transfer.length := by
  have awaits := awaits_start inbound addressed
  unfold uavcanTxDsdl at sent arriving
  by_cases large : transfer.length > maxUserPayloadLength
  · simp only [if_pos large] at sent arriving
    exact awaits.receives_several large fits sent arriving inTime
  · simp only [if_neg large] at sent arriving
    exact awaits.receives_single (List.length_pos_iff.mp nonempty) (Nat.le_of_not_lt large) fits sent arriving inTime

def inOrder (frames : List Frame) : List Poll := frames.map fun f => ⟨some f,false⟩

lemma inOrder_frames (frames : List Frame) : (inOrder frames).filterMap frame = frames := by
  induction frames with
  | nil => rfl
  | cons f frames ih => exact congrArg (f::·) ih

lemma inOrder_inTime (frames : List Frame) : ∀ poll ∈ inOrder frames, poll.expired = false := by
  intro poll member
  obtain ⟨f,_,rfl⟩ := mem_map.mp member
  rfl

def passing (node : BitVec 7) (transferId : BitVec 5) : Protocol := ⟨⟨0,0,false,node⟩,⟨transferId,false,false,false⟩⟩

theorem rxDsdl_of_txDsdl_read : ∃ r, uavcanRxDsdl ⟨2,30⟩ .rspRead (passing 1 0) 258
    (inOrder (uavcanTxDsdl (fun _ => .ok) ⟨1,16⟩ .rspRead (passing 2 9) (List.replicate 12 5)).1) = some r ∧
      r.status = .ok ∧ r.transfer = List.replicate 12 5 ∧ r.length = 12 :=
  rxDsdl_of_txDsdl _ _ _ .rspRead (by decide) _ _ ⟨fun _ => rfl,fun _ => .inr rfl⟩ _ 258 (by decide) (by decide)
    (by decide +kernel) _
    (inOrder_frames _) (inOrder_inTime _)

/-- A log message is never received: its entry of the table has no inbound tail. -/
theorem not_received_logMessage : (uavcanTxDsdl (fun _ => .ok) ⟨1,16⟩ .msgLogMessage (passing 2 9) [1]).2 = .ok ∧
    ¬ ∃ r, uavcanRxDsdl ⟨2,30⟩ .msgLogMessage (passing 1 0) 7
      (inOrder (uavcanTxDsdl (fun _ => .ok) ⟨1,16⟩ .msgLogMessage (passing 2 9) [1]).1) = some r ∧
        r.status = .ok ∧ r.transfer = [1] ∧ r.length = 1 := by
  have waiting : uavcanRxDsdl ⟨2,30⟩ .msgLogMessage (passing 1 0) 7
      (inOrder (uavcanTxDsdl (fun _ => .ok) ⟨1,16⟩ .msgLogMessage (passing 2 9) [1]).1) = none := by
    decide +kernel
  refine ⟨by decide +kernel,?_⟩
  intro received
  obtain ⟨r,result,_⟩ := received
  rw [waiting] at result
  cases result

end AerialManipulator.Uavcan
