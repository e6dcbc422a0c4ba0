import Uam.ProtocolSplitter

/-! What the two readers of a protocol splitter receive, in positions of the stream. A scan from
anywhere finds, of each protocol, the first frame not taken yet. -/
namespace AerialManipulator.ProtocolSplitter
open Bytes Sp2Header Runs
open Function (update_self update_of_ne update_eq_self update_apply)
open Function (update)
open List (append_nil drop_drop drop_left drop_take length_append length_drop length_take take_add take_take)
open ReadBuffer (accepts bufferSize bufferThreshold)

namespace SplitFrame
variable (f : SplitFrame)

def header : Sp2Header :=
  let lenH : Byte := BitVec.ofNat 8 (f.payload.length >>> 8) &&& 0x7f
  let typeLenH := if f.type = .mavlink then lenH else lenH ||| 0x80
  let lenL : Byte := BitVec.ofNat 8 f.payload.length
  ⟨sp2HeaderMagic,typeLenH,lenL,sp2HeaderMagic ^^^ typeLenH ^^^ lenL⟩

lemma bytes_eq : f.bytes = f.header.bytes ++ f.payload := rfl

lemma length_bytes : f.bytes.length = sp2HeaderSize+f.payload.length := by
  rw [bytes_eq,length_append]
  rfl

lemma low_bits_type : ∀ lenH : Byte, (lenH &&& 0x7f) &&& 0x80 = 0 ∧ ((lenH &&& 0x7f) ||| 0x80) &&& 0x80 ≠ 0 ∧
    (lenH &&& 0x7f) &&& 0x7f = lenH &&& 0x7f ∧ ((lenH &&& 0x7f) ||| 0x80) &&& 0x7f = lenH &&& 0x7f := by
  decide +kernel

lemma type_header : f.header.type = f.type := by
  obtain ⟨low,high,_,_⟩ := low_bits_type (BitVec.ofNat 8 (f.payload.length >>> 8))
  obtain ⟨type,payload⟩ := f
  cases type with
  | mavlink => exact if_pos low
  | rtps => exact if_neg high

lemma payloadLen_header (short : f.payload.length < 32768) : f.header.payloadLen = f.payload.length := by
  have same : f.header.typeLenH &&& (0x7f : Byte) = BitVec.ofNat 8 (f.payload.length >>> 8) &&& 0x7f := by
    obtain ⟨_,_,low,high⟩ := low_bits_type (BitVec.ofNat 8 (f.payload.length >>> 8))
    obtain ⟨type,payload⟩ := f
    cases type with
    | mavlink => exact low
    | rtps => exact high
  have seven : (0x7f : Byte).toNat = 2^7-1 := by decide
  rw [payloadLen,same,BitVec.toNat_and,seven,Nat.and_two_pow_sub_one_eq_mod]
  simp only [header,BitVec.toNat_ofNat,Nat.shiftRight_eq_div_pow]
  rw [← Nat.shiftLeft_add_eq_or_of_lt (Nat.mod_lt _ (by decide)),Nat.shiftLeft_eq]
  omega

lemma accepts_header (short : f.payload.length < 32768) :
    accepts f.header = decide (f.payload.length ≤ bufferSize) := by
  rw [accepts,f.payloadLen_header short]
  have magic : f.header.magic = sp2HeaderMagic := rfl
  have checksum : f.header.checksum = f.header.magic ^^^ f.header.typeLenH ^^^ f.header.lenL := rfl
  rw [magic] at checksum
  rw [magic,checksum,decide_eq_true rfl,decide_eq_true rfl]
  rfl

end SplitFrame

lemma ofBytes_congr {a b : List Byte} (same : a.take sp2HeaderSize = b.take sp2HeaderSize) : ofBytes a = ofBytes b := by
  have at_ (k : Nat) (within : k < sp2HeaderSize) : a.getD k 0 = b.getD k 0 := by
    have both := congrArg (fun l => l.getD k 0) same
    simpa only [List.getD_eq_getElem?_getD,List.getElem?_take_of_lt within] using both
  rw [ofBytes,ofBytes,at_ 0 (by decide),at_ 1 (by decide),at_ 2 (by decide),at_ 3 (by decide)]

namespace SplitFrame

def shown : (Nat → Bool) → List SplitFrame → List Byte
  | _,[] => []
  | taken,f::rest => (if taken 0 then f.bytes.set 0 0 else f.bytes) ++ shown (fun k => taken (k + 1)) rest

def offset (frames : List SplitFrame) (k : Nat) : Nat := (stream (frames.take k)).length

lemma stream_cons (f : SplitFrame) (rest : List SplitFrame) : stream (f::rest) = f.bytes ++ stream rest :=
  List.flatMap_cons

lemma stream_append (first second : List SplitFrame) : stream (first ++ second) = stream first ++ stream second :=
  List.flatMap_append

lemma length_marked (f : SplitFrame) (c : Bool) : (if c then f.bytes.set 0 0 else f.bytes).length = f.bytes.length := by
  split
  · rw [List.length_set]
  · rfl

lemma drop_marked (f : SplitFrame) (c : Bool) (positive : 0 < j) :
    (if c then f.bytes.set 0 0 else f.bytes).drop j = f.bytes.drop j := by
  split
  · exact List.drop_set_of_lt positive
  · rfl

variable (taken : Nat → Bool)

lemma length_shown (frames : List SplitFrame) : (shown taken frames).length = (stream frames).length := by
  induction frames generalizing taken with
  | nil => rfl
  | cons f rest ih =>
    rw [shown,stream_cons,length_append,length_append,ih,length_marked]

lemma offset_zero (frames : List SplitFrame) : offset frames 0 = 0 := rfl

lemma offset_cons (f : SplitFrame) (rest : List SplitFrame) (k : Nat) :
    offset (f::rest) (k+1) = f.bytes.length+offset rest k := by
  rw [offset,List.take_succ_cons,stream_cons,length_append]
  rfl

variable {frames : List SplitFrame} {f : SplitFrame}

variable {k : Nat}

lemma offset_succ (found : frames[k]? = some f) : offset frames (k+1) = offset frames k+f.bytes.length := by
  rw [offset,List.take_add_one,found]
  simp [stream,offset]

lemma offset_mono (frames : List SplitFrame) (le : k ≤ l) : offset frames k ≤ offset frames l := by
  have split : frames.take l = frames.take k ++ (frames.drop k).take (l - k) := by
    rw [← take_add,Nat.add_sub_cancel' le]
  rw [offset,offset,split,stream_append,length_append]
  exact Nat.le_add_right _ _

lemma offset_le (frames : List SplitFrame) (k : Nat) : offset frames k ≤ (stream frames).length := by
  have split := congrArg (fun l => (stream l).length) (List.take_append_drop k frames)
  simp only [stream_append,length_append] at split
  rw [offset]
  omega

lemma offset_succ_le_of_lt (less : offset frames k < offset frames l) : offset frames (k+1) ≤ offset frames l := by
  apply offset_mono
  rw [Nat.succ_le_iff,← not_le]
  intro back
  exact absurd (offset_mono frames back) (not_le.mpr less)

lemma le_of_offset_le (found : frames[l]? = some g) (le : offset frames k ≤ offset frames l) : k ≤ l := by
  rw [← not_lt]
  intro before
  have next := offset_succ found
  have mono : offset frames (l+1) ≤ offset frames k := offset_mono frames before
  rw [g.length_bytes,sp2HeaderSize] at next
  omega

lemma exists_position (frames : List SplitFrame) (inside : p < (stream frames).length) :
    ∃ k f, frames[k]? = some f ∧ ∃ j < f.bytes.length, p = offset frames k+j := by
  induction frames generalizing p with
  | nil => exact absurd inside (Nat.not_lt_zero p)
  | cons f rest ih =>
    by_cases first : p < f.bytes.length
    · exact ⟨0,f,rfl,p,first,(Nat.zero_add p).symm⟩
    rw [stream_cons,length_append] at inside
    obtain ⟨k,g,found,j,within,place⟩ := ih (p := p-f.bytes.length) (by omega)
    refine ⟨k+1,g,found,j,within,?_⟩
    rw [offset_cons]
    omega

lemma drop_shown (frames : List SplitFrame) (k : Nat) :
    (shown taken frames).drop (offset frames k) = shown (fun i => taken (k+i)) (frames.drop k) := by
  induction k generalizing taken frames with
  | zero =>
    simp only [offset_zero,Nat.zero_add]
    rfl
  | succ k ih =>
    cases frames with
    | nil => rfl
    | cons f rest =>
      rw [offset_cons,shown,← drop_drop,← length_marked f (taken 0),drop_left,ih]
      simp only [List.drop_succ_cons,Nat.add_right_comm]

lemma shown_update (found : frames[k]? = some f) :
    shown (update taken k true) frames = (shown taken frames).set (offset frames k) 0 := by
  induction frames generalizing taken k with
  | nil => cases found
  | cons g rest ih =>
    cases k with
    | zero =>
      rw [shown,shown,update_self,if_pos rfl,offset_zero]
      split <;> rfl
    | succ k =>
      have later : (fun i => update taken (k+1) true (i+1)) = update (fun i => taken (i+1)) k true := by
        funext i
        simp only [update_apply,Nat.add_right_cancel_iff]
      rw [shown,shown,later,ih _ found,offset_cons,update_of_ne (Nat.succ_ne_zero k).symm,← length_marked g (taken 0),
        List.set_append_right _ _ (Nat.le_add_right _ _),Nat.add_sub_cancel_left]

lemma take_shown (frames : List SplitFrame) : (shown taken frames).take sp2HeaderSize =
      (if taken 0 then (stream frames).set 0 0 else stream frames).take sp2HeaderSize := by
  cases frames with
  | nil =>
    rw [shown]
    split <;> rfl
  | cons f rest =>
    rw [shown,stream_cons,bytes_eq]
    split <;> rfl

lemma drop_shown_eq (behind : ∀ k f, frames[k]? = some f → taken k → offset frames k < pos) :
    (shown taken frames).drop pos = (stream frames).drop pos := by
  induction frames generalizing taken pos with
  | nil => rfl
  | cons f rest ih =>
    have front : (if taken 0 then f.bytes.set 0 0 else f.bytes).drop pos = f.bytes.drop pos := by
      split
      next closed => exact List.drop_set_of_lt (behind 0 f rfl closed)
      · rfl
    rw [shown,stream_cons,List.drop_append,List.drop_append,front,length_marked,ih]
    intro k g found closed
    have before := behind (k+1) g found closed
    rw [offset_cons] at before
    omega

lemma drop_shown_offset (found : frames[k]? = some f) :
    (shown taken frames).drop (offset frames k) = (if taken k then f.bytes.set 0 0 else f.bytes) ++
      shown (fun i => taken (k+1+i)) (frames.drop (k+1)) := by
  obtain ⟨inside,same⟩ := List.getElem?_eq_some_iff.mp found
  rw [drop_shown,List.drop_eq_getElem_cons inside,same,shown]
  simp only [Nat.add_zero,Nat.add_assoc,Nat.add_comm 1]

lemma Quiet.drop (quiet : Quiet frames) (k : Nat) : Quiet (frames.drop k) := by
  induction k generalizing frames with
  | zero => exact quiet
  | succ k ih =>
    cases frames with
    | nil => exact quiet
    | cons f rest => exact ih quiet.2.2

lemma take_append_congr {front a b : List Byte} (same : a.take n = b.take n) :
    (front ++ a).take n = (front ++ b).take n := by
  have within : min (n-front.length) n = n-front.length := Nat.min_eq_left (Nat.sub_le n _)
  rw [List.take_append,List.take_append,← within,← take_take,← take_take,same]

lemma Quiet.found (quiet : Quiet frames) (found : frames[k]? = some f) : Quiet (f::frames.drop (k+1)) := by
  obtain ⟨inside,same⟩ := List.getElem?_eq_some_iff.mp found
  rw [← same,← List.drop_eq_getElem_cons inside]
  exact quiet.drop k

lemma Quiet.positive (quiet : Quiet frames) (found : frames[k]? = some f) : 0 < f.payload.length :=
  List.length_pos_iff.mpr (quiet.found found).1

lemma not_accepts_inside (quiet : Quiet frames) (taken : Nat → Bool)
    (found : frames[k]? = some f) (positive : 0 < j) (within : j < f.bytes.length)
    (room : offset frames k+j+sp2HeaderSize < (stream frames).length) :
    accepts (ofBytes ((shown taken frames).drop (offset frames k+j))) = false := by
  obtain ⟨intact,overwritten⟩ := (quiet.found found).2.1 j positive within
  have long : j+sp2HeaderSize < f.bytes.length+(stream (frames.drop (k+1))).length := by
    have total := congrArg (fun l => (stream l).length) (List.take_append_drop (k+1) frames)
    simp only [stream_append,length_append] at total
    have next := offset_succ found
    rw [offset] at next
    omega
  rw [← drop_drop,drop_shown_offset taken found,
    List.drop_append_of_le_length ((length_marked f _).symm ▸ within.le),drop_marked f _ positive,
    ofBytes_congr (take_append_congr (take_shown _ _)),← List.drop_append_of_le_length within.le]
  split
  · simpa [headerAt,long] using overwritten
  · simpa [headerAt,long] using intact

lemma ofBytes_offset (found : frames[k]? = some f) (open_ : taken k = false) :
    ofBytes ((shown taken frames).drop (offset frames k)) = f.header := by
  rw [drop_shown_offset taken found,open_]
  rfl

lemma not_accepts_taken (found : frames[k]? = some f) (closed : taken k) :
    accepts (ofBytes ((shown taken frames).drop (offset frames k))) = false := by
  rw [drop_shown_offset taken found,closed]
  rfl

lemma frame_of_accepts (quiet : Quiet frames) (taken : Nat → Bool) (room : p+sp2HeaderSize < (stream frames).length)
    (accepted : accepts (ofBytes ((shown taken frames).drop p))) :
    ∃ k f, frames[k]? = some f ∧ p = offset frames k ∧ taken k = false := by
  obtain ⟨k,f,found,j,within,rfl⟩ := exists_position frames (p := p) (by omega)
  by_cases first : j = 0
  · subst first
    refine ⟨k,f,found,rfl,?_⟩
    rw [← Bool.not_eq_true]
    intro closed
    rw [Nat.add_zero,not_accepts_taken taken found closed] at accepted
    exact Bool.false_ne_true accepted
  · rw [not_accepts_inside quiet taken found (Nat.pos_of_ne_zero first) within room] at accepted
    exact absurd accepted Bool.false_ne_true

def isTaken (count : MessageType → Nat) (frames : List SplitFrame) (k : Nat) : Bool :=
  frames[k]?.any fun f => k < count f.type

lemma isTaken_of_some (found : frames[k]? = some f) : isTaken count frames k = decide (k < count f.type) := by
  rw [isTaken,found]
  rfl

lemma isTaken_update (found : frames[k]? = some f) (next : count f.type ≤ k)
    (none : ∀ l g, frames[l]? = some g → g.type = f.type → count f.type ≤ l → k ≤ l) :
    isTaken (update count f.type (k+1)) frames = update (isTaken count frames) k true := by
  funext l
  by_cases here : l = k
  · rw [here,update_self,isTaken_of_some found,update_self]
    exact decide_eq_true (Nat.lt_succ_self k)
  rw [update_of_ne here,isTaken,isTaken]
  cases there : frames[l]? with
  | none => rfl
  | some g =>
    change decide _ = decide _
    by_cases same : g.type = f.type
    · rw [same,update_self,decide_eq_decide]
      have ahead := none l g there same
      omega
    · rw [update_of_ne same]

end SplitFrame

open SplitFrame

/-- `count` tells the frames taken, `left` what remains of the last one of each type, `base` and
`pos` where the buffer lies. -/
structure Tracks (frames : List SplitFrame) (count left : MessageType → Nat) (base pos : Nat) (b : ReadBuffer) :
    Prop where
  contents : b.buffer = ((shown (isTaken count frames) frames).drop base).take (pos-base)
  base_le : base ≤ pos
  pos_le : pos ≤ (stream frames).length
  fits : pos-base ≤ bufferSize
  start : ∀ type, b.start type = offset frames (count type)-left type-base
  finish : ∀ type, b.finish type = offset frames (count type)-base
  arrived : ∀ type, offset frames (count type) ≤ pos
  kept : ∀ type, 0 < left type → base+left type ≤ offset frames (count type)
  last : ∀ type, 0 < left type →
    ∃ k f, count type = k+1 ∧ frames[k]? = some f ∧ f.type = type ∧ left type ≤ f.payload.length
  ahead : ∀ k f, frames[k]? = some f → count f.type ≤ k → base ≤ offset frames k

namespace Tracks
variable {frames : List SplitFrame} {count left : MessageType → Nat} {base pos : Nat} {b : ReadBuffer}

section
variable (tracks : Tracks frames count left base pos b)
include tracks

lemma length : b.buffer.length = pos-base := by
  have whole := length_shown (isTaken count frames) frames
  have within := tracks.pos_le
  rw [tracks.contents,length_take,length_drop,whole]
  omega

lemma available_eq (type : MessageType) : b.available type = decide (0 < left type) := by
  rw [ReadBuffer.available,tracks.start,tracks.finish,decide_eq_decide]
  have kept := tracks.kept type
  omega

lemma ofBytes_eq (inside : i+sp2HeaderSize ≤ b.buffer.length) : ofBytes (b.buffer.drop i) =
      ofBytes ((shown (isTaken count frames) frames).drop (base+i)) := by
  rw [tracks.length] at inside
  apply ofBytes_congr
  rw [tracks.contents,drop_take,drop_drop,take_take,Nat.min_eq_left (by omega)]

lemma take (found : frames[k]? = some f) (short : f.payload.length < 32768) (next : count f.type ≤ k)
    (none : ∀ l g, frames[l]? = some g → g.type = f.type → count f.type ≤ l → k ≤ l)
    (complete : offset frames (k+1) ≤ pos) :
    Tracks frames (update count f.type (k+1)) (update left f.type f.payload.length) base pos
      (b.take (offset frames k-base) f.header) := by
  have front := tracks.ahead k f found next
  have after := offset_succ found
  rw [f.length_bytes] at after
  refine ⟨?_,tracks.base_le,tracks.pos_le,tracks.fits,fun type => ?_,fun type => ?_,fun type => ?_,fun type => ?_,
    fun type => ?_,fun l g there beyond => ?_⟩
  · rw [isTaken_update found next none,shown_update _ found,ReadBuffer.take,tracks.contents,List.drop_set,
      if_neg (not_lt.mpr front),List.take_set]
  all_goals simp only [ReadBuffer.take,type_header,payloadLen_header f short,update_apply] at *
  · split
    · omega
    · exact tracks.start type
  · split
    · omega
    · exact tracks.finish type
  · split
    · exact complete
    · exact tracks.arrived type
  · split
    · omega
    · exact tracks.kept type
  · split
    next same => exact fun _ => ⟨k,f,rfl,found,same.symm,le_rfl⟩
    · exact tracks.last type
  · split at beyond
    next same => exact front.trans (offset_mono frames ((Nat.le_succ k).trans beyond))
    · exact tracks.ahead l g there beyond

lemma remove (inside : base+n ≤ pos) (kept : ∀ type, 0 < left type → base+n+left type ≤ offset frames (count type))
    (ahead : ∀ k f, frames[k]? = some f → count f.type ≤ k → base+n ≤ offset frames k) :
    Tracks frames count left (base+n) pos (b.remove n) := by
  have fits := tracks.fits
  refine ⟨?_,inside,tracks.pos_le,by omega,fun type => ?_,fun type => ?_,tracks.arrived,kept,tracks.last,ahead⟩
  · rw [ReadBuffer.remove,tracks.contents,drop_take,drop_drop,Nat.sub_sub]
  · rw [ReadBuffer.remove]
    dsimp only
    rw [tracks.start]
    omega
  · rw [ReadBuffer.remove]
    dsimp only
    rw [tracks.finish]
    omega

end
end Tracks

def given (frames : List SplitFrame) (count left : MessageType → Nat) (type : MessageType) : List Byte :=
  (payloads type (frames.take (count type))).take ((payloads type (frames.take (count type))).length-left type)

lemma payloads_append (type : MessageType) (first second : List SplitFrame) :
    payloads type (first ++ second) = payloads type first ++ payloads type second := by
  rw [payloads,List.filter_append,List.flatMap_append]
  rfl

variable {frames : List SplitFrame}

lemma payloads_take_eq {type : MessageType} {c k : Nat} (le : c ≤ k)
    (none : ∀ l g, frames[l]? = some g → g.type = type → c ≤ l → k ≤ l) :
    payloads type (frames.take k) = payloads type (frames.take c) := by
  induction k,le using Nat.le_induction with
  | base => rfl
  | succ k le ih =>
    rw [List.take_add_one,payloads_append,
      ih fun l g found same beyond => (Nat.le_succ k).trans (none l g found same beyond)]
    cases there : frames[k]? with
    | none => exact append_nil _
    | some g =>
      have other : g.type ≠ type := fun same => absurd (none k g there same le) (Nat.not_succ_le_self k)
      have nothing : payloads type [g] = [] := by simp [payloads,other]
      rw [Option.toList_some,nothing,append_nil]

lemma payloads_take_succ (found : frames[k]? = some f) :
    payloads f.type (frames.take (k + 1)) = payloads f.type (frames.take k) ++ f.payload := by
  rw [List.take_add_one,payloads_append,found,Option.toList_some]
  simp [payloads]

lemma given_take {count left : MessageType → Nat} {k : Nat} {f : SplitFrame}
    (found : frames[k]? = some f) (next : count f.type ≤ k)
    (none : ∀ l g, frames[l]? = some g → g.type = f.type → count f.type ≤ l → k ≤ l) (done : left f.type = 0) :
    given frames (update count f.type (k+1)) (update left f.type f.payload.length) =
      given frames count left := by
  funext type
  by_cases same : type = f.type
  · subst same
    rw [given,given,update_self,update_self,payloads_take_succ found,payloads_take_eq next none,
      done,length_append,Nat.add_sub_cancel,List.take_left,Nat.sub_zero,List.take_length]
  · rw [given,given,update_of_ne same,update_of_ne same]

namespace Tracks
variable {frames : List SplitFrame} {count left : MessageType → Nat} {base pos : Nat} {b : ReadBuffer}

def Beyond (frames : List SplitFrame) (count left : MessageType → Nat) (pos p : Nat) : Prop :=
  ∀ l g, frames[l]? = some g → count g.type ≤ l → left g.type = 0 → offset frames (l+1) ≤ pos → p ≤ offset frames l

def Scanned (frames : List SplitFrame) (count left : MessageType → Nat) (pos : Nat) : Prop :=
  ∀ l g, frames[l]? = some g → count g.type ≤ l → left g.type = 0 → pos < offset frames (l+1)

variable {f : SplitFrame} {type : MessageType}

variable {k : Nat}

lemma Beyond.succ (missed : Beyond frames count left pos (offset frames k))
    (there : frames[k]? = some f) (passed : count f.type ≤ k → left f.type ≠ 0) :
    Beyond frames count left pos (offset frames (k+1)) := by
  intro l g place after done whole
  have behind := le_of_offset_le place (missed l g place after done whole)
  apply offset_mono
  rw [Nat.succ_le_iff]
  refine lt_of_le_of_ne behind fun here => ?_
  subst here
  rw [there] at place
  cases place
  exact passed after done

lemma Beyond.take (missed : Beyond frames count left pos (offset frames k)) (there : frames[k]? = some f) :
    Beyond frames (update count f.type (k+1)) (update left f.type n) pos
      (offset frames (k+1)) := by
  refine Beyond.succ (fun l g place after done whole => ?_) there fun after => ?_
  · by_cases own : g.type = f.type
    · rw [own,update_self] at after
      exact offset_mono frames ((Nat.le_succ k).trans after)
    · rw [update_of_ne own] at after done
      exact missed l g place after done whole
  · rw [update_self] at after
    exact absurd after (Nat.not_succ_le_self k)

lemma scanned_of_end (tracks : Tracks frames count left base pos b)
    (missed : Beyond frames count left pos (base+i)) (quiet : Quiet frames)
    (over_ : b.buffer.length ≤ i+sp2HeaderSize) : Scanned frames count left pos := by
  intro l g there next done
  rw [← not_le]
  intro complete
  have behind := missed l g there next done complete
  have after := offset_succ there
  have positive := quiet.positive there
  rw [g.length_bytes] at after
  rw [tracks.length] at over_
  have base_le := tracks.base_le
  omega

lemma scanned_of_both (mavlink : 0 < left .mavlink) (rtps : 0 < left .rtps) : Scanned frames count left pos := by
  intro l g _ _ done
  cases type : g.type with
  | mavlink =>
    rw [type] at done
    exact absurd done (Nat.pos_iff_ne_zero.mp mavlink)
  | rtps =>
    rw [type] at done
    exact absurd done (Nat.pos_iff_ne_zero.mp rtps)

lemma found_frame (quiet : Quiet frames) (tracks : Tracks frames count left base pos b)
    (same : ∀ type, found type = decide (0 < left type))
    (there : frames[k]? = some f) (short : f.payload.length < 32768)
    (next : count f.type ≤ k) (complete : offset frames (k+1) ≤ pos)
    (missed : Beyond frames count left pos (offset frames k)) :
    ∃ count' left', Tracks frames count' left' base pos
        (if found f.type then b else b.take (offset frames k-base) f.header) ∧
      given frames count' left' = given frames count left ∧
      (∀ type, update found f.type true type = decide (0 < left' type)) ∧
      Beyond frames count' left' pos (offset frames (k+1)) := by
  by_cases already : found f.type = true
  · rw [if_pos already,← already,update_eq_self]
    refine ⟨count,left,tracks,rfl,same,missed.succ there fun _ done => ?_⟩
    rw [same,done] at already
    exact Bool.false_ne_true already
  · have done : left f.type = 0 := by
      rw [same,decide_eq_true_eq] at already
      omega
    have first : ∀ l g, frames[l]? = some g → g.type = f.type → count f.type ≤ l → k ≤ l := by
      intro l g place type after
      rw [← not_lt]
      intro before
      have whole := (offset_mono frames (Nat.succ_le_of_lt before)).trans (offset_mono frames (Nat.le_succ k))
      rw [← type] at after done
      exact absurd (le_of_offset_le place (missed l g place after done (whole.trans complete))) (not_le.mpr before)
    rw [if_neg already]
    refine ⟨_,_,tracks.take there short next first complete,given_take there next first done,fun type => ?_,
      missed.take there⟩
    by_cases own : type = f.type
    · rw [own,update_self,update_self,decide_eq_true (quiet.positive there)]
    · rw [update_of_ne own,update_of_ne own,same]

lemma beyond_of_rejected (short : ∀ f ∈ frames, f.payload.length < 32768)
    (tracks : Tracks frames count left base pos b) (missed : Beyond frames count left pos p)
    (front : base ≤ p)
    (rejected : accepts (ofBytes ((shown (isTaken count frames) frames).drop p)) = false) :
    Beyond frames count left pos (p+1) := by
  intro l g there next done complete
  rcases Nat.lt_or_eq_of_le (missed l g there next done complete) with less | here
  · exact less
  -- a frame that is there would be accepted
  have after := offset_succ there
  have fits := tracks.fits
  rw [g.length_bytes] at after
  have small : g.payload.length ≤ bufferSize := by omega
  rw [here,ofBytes_offset _ there (by rw [isTaken_of_some there]; simpa using next),
    g.accepts_header (short g (List.mem_of_getElem? there)),decide_eq_true small] at rejected
  exact absurd rejected Bool.false_ne_true.symm

lemma scanned_of_incomplete (missed : Beyond frames count left pos (offset frames k))
    (incomplete : pos < offset frames (k+1)) : Scanned frames count left pos := by
  intro l g there next done
  rw [← not_le]
  intro complete
  have behind := le_of_offset_le there (missed l g there next done complete)
  have mono : offset frames (k+1) ≤ offset frames (l+1) := offset_mono frames (Nat.succ_le_succ behind)
  omega

section
variable (quiet : Quiet frames) (short : ∀ f ∈ frames, f.payload.length < 32768)
  (tracks : Tracks frames count left base pos b)
include quiet short tracks

lemma scanLoop (same : ∀ type, found type = decide (0 < left type)) (enough : b.buffer.length ≤ i+fuel)
    (missed : Beyond frames count left pos (base+i)) :
    ∃ count' left', Tracks frames count' left' base pos (b.scanLoop fuel i found) ∧
      given frames count' left' = given frames count left ∧ Scanned frames count' left' pos := by
  induction fuel generalizing i found b count left with
  | zero => exact ⟨count,left,tracks,rfl,tracks.scanned_of_end missed quiet (by omega)⟩
  | succ fuel ih =>
    rw [ReadBuffer.scanLoop]
    dsimp only
    split
    next over_ => exact ⟨count,left,tracks,rfl,tracks.scanned_of_end missed quiet over_⟩
    next inside =>
      rw [tracks.ofBytes_eq (by omega)]
      have length := tracks.length
      have pos_le := tracks.pos_le
      have fits := tracks.fits
      have positive : 0 < sp2HeaderSize := by decide
      split
      next rejected =>
        exact ih tracks same (by omega)
          (tracks.beyond_of_rejected short missed (Nat.le_add_right _ _) (by simpa using rejected))
      next accepted =>
        obtain ⟨k,f,there,place,open_⟩ := frame_of_accepts quiet (isTaken count frames) (p := base+i) (by omega)
          (by simpa using accepted)
        have small := short f (List.mem_of_getElem? there)
        have next : count f.type ≤ k := by simpa [isTaken_of_some there] using open_
        have after := offset_succ there
        rw [f.length_bytes] at after
        have back : i = offset frames k-base := by omega
        rw [place] at missed
        rw [place,ofBytes_offset _ there open_,f.type_header,f.payloadLen_header small]
        split
        next incomplete => exact ⟨count,left,tracks,rfl,scanned_of_incomplete missed (by omega)⟩
        next complete =>
          obtain ⟨count',left',tracks',equal,same',beyond⟩ :=
            found_frame quiet tracks same there small next (by omega) missed
          rw [← back] at tracks'
          have length' := tracks'.length
          split
          next both =>
            rw [same',same',Bool.and_eq_true,decide_eq_true_eq,decide_eq_true_eq] at both
            exact ⟨count',left',tracks',equal,scanned_of_both both.1 both.2⟩
          · have on : base+(i+sp2HeaderSize+f.payload.length) = offset frames (k+1) := by omega
            rw [← on] at beyond
            obtain ⟨count'',left'',tracks'',equal',scanned⟩ := ih tracks' same' (by omega) beyond
            exact ⟨count'',left'',tracks'',equal'.trans equal,scanned⟩

lemma scanForPackets : ∃ count' left', Tracks frames count' left' base pos b.scanForPackets ∧
      given frames count' left' = given frames count left ∧ Scanned frames count' left' pos := by
  have beyond : Beyond frames count left pos (base+min (b.finish .mavlink) (b.finish .rtps)) := by
    intro l g there next done complete
    have front := tracks.ahead l g there next
    have mono := offset_mono frames next
    rw [tracks.finish,tracks.finish]
    cases type : g.type with
    | mavlink | rtps =>
      rw [type] at mono
      omega
  rw [ReadBuffer.scanForPackets]
  split
  next small =>
    refine ⟨count,left,tracks,rfl,tracks.scanned_of_end beyond quiet ?_⟩
    omega
  · split
    next both =>
      rw [tracks.available_eq,tracks.available_eq,Bool.and_eq_true,decide_eq_true_eq,decide_eq_true_eq] at both
      exact ⟨count,left,tracks,rfl,scanned_of_both both.1 both.2⟩
    · exact tracks.scanLoop quiet short tracks.available_eq (Nat.le_add_left _ _) beyond

end

section
variable (tracks : Tracks frames count left base pos b)
include tracks

lemma cleanup (scanned : Scanned frames count left pos) : ∃ base', Tracks frames count left base' pos b.cleanup := by
  have base_le := tracks.base_le
  have mavlink := tracks.start .mavlink
  have rtps := tracks.start .rtps
  have first := tracks.arrived .mavlink
  have second := tracks.arrived .rtps
  rw [ReadBuffer.cleanup]
  split
  next neither =>
    rw [tracks.available_eq,tracks.available_eq] at neither
    have none (type : MessageType) : left type = 0 := by
      simp only [Bool.and_eq_true,Bool.not_eq_true',decide_eq_false_iff_not,Nat.not_lt,Nat.le_zero] at neither
      cases type with
      | mavlink => exact neither.1
      | rtps => exact neither.2
    refine ⟨_,tracks.remove (by omega) (fun type some => absurd (none type) (Nat.pos_iff_ne_zero.mp some)) ?_⟩
    intro k f found next
    have front := tracks.ahead k f found next
    have behind (type : MessageType) : offset frames (count type) ≤ offset frames k := by
      rw [← not_lt]
      intro before
      exact absurd ((offset_succ_le_of_lt before).trans (tracks.arrived type))
        (not_le.mpr (scanned k f found next (none f.type)))
    have one := behind .mavlink
    have two := behind .rtps
    omega
  · have least (type : MessageType) : min (b.start .mavlink) (b.start .rtps) ≤ b.start type := by
      cases type with
      | mavlink => exact min_le_left _ _
      | rtps => exact min_le_right _ _
    refine ⟨_,tracks.remove (by omega) (fun type some => ?_) fun k f found next => ?_⟩
    · have kept := tracks.kept type some
      have own := least type
      rw [tracks.start type] at own
      omega
    · have front := tracks.ahead k f found next
      have own := least f.type
      have mono := offset_mono frames next
      rw [tracks.start f.type] at own
      omega

lemma slice_start (more : 0 < left type) (last : count type = k+1) (found : frames[k]? = some f)
    (within : left type ≤ f.payload.length) (few : n ≤ left type) :
    slice b.buffer (b.start type) n = (f.payload.drop (f.payload.length-left type)).take n := by
  have kept := tracks.kept type more
  have arrived := tracks.arrived type
  have after := offset_succ found
  have length := f.length_bytes
  rw [last] at kept arrived
  have place : base+b.start type = offset frames k+(sp2HeaderSize+(f.payload.length-left type)) := by
    rw [tracks.start,last]
    omega
  have behind : (if isTaken count frames k then f.bytes.set 0 0 else f.bytes).drop
      (sp2HeaderSize+(f.payload.length-left type)) = f.payload.drop (f.payload.length-left type) := by
    have header : sp2HeaderSize = f.header.bytes.length := rfl
    rw [drop_marked f _ (Nat.add_pos_left (by decide) _),bytes_eq,header,← drop_drop,drop_left]
  have inside : sp2HeaderSize+(f.payload.length-left type) ≤
      (if isTaken count frames k then f.bytes.set 0 0 else f.bytes).length := by
    rw [length_marked]
    omega
  rw [slice,tracks.contents,drop_take,drop_drop,take_take,place,← drop_drop,
    drop_shown_offset _ found,List.drop_append_of_le_length inside,behind,tracks.start,last,
    Nat.min_eq_left (by omega),List.take_append_of_le_length]
  rw [length_drop]
  omega

lemma copy (more : 0 < left type) (few : n ≤ left type) : Tracks frames count (update left type (left type-n)) base pos
      {b with start := update b.start type (b.start type+n)} := by
  have kept := tracks.kept type more
  refine ⟨tracks.contents,tracks.base_le,tracks.pos_le,tracks.fits,fun other => ?_,tracks.finish,tracks.arrived,
    fun other rest => ?_,fun other rest => ?_,tracks.ahead⟩
  · dsimp only
    by_cases own : other = type
    · rw [own,update_self,update_self,tracks.start]
      omega
    · rw [update_of_ne own,update_of_ne own,tracks.start]
  · by_cases own : other = type
    · rw [own,update_self]
      omega
    · rw [update_of_ne own] at rest ⊢
      exact tracks.kept other rest
  · by_cases own : other = type
    · obtain ⟨k,f,last,found,same,within⟩ := tracks.last type more
      rw [own,update_self]
      exact ⟨k,f,last,found,same,(Nat.sub_le _ _).trans within⟩
    · rw [update_of_ne own] at rest ⊢
      exact tracks.last other rest

end

lemma given_copy (last : count f.type = k+1) (found : frames[k]? = some f)
    (within : left f.type ≤ f.payload.length) (few : n ≤ left f.type) :
    given frames count (update left f.type (left f.type-n)) =
      update (given frames count left) f.type
        (given frames count left f.type ++ (f.payload.drop (f.payload.length - left f.type)).take n) := by
  funext other
  by_cases own : other = f.type
  · rw [own,update_self,given,given,update_self,last,payloads_take_succ found]
    generalize payloads f.type (frames.take k) = before
    have old : (before ++ f.payload).length - left f.type = before.length + (f.payload.length - left f.type) := by
      rw [length_append]
      omega
    have new : (before ++ f.payload).length - (left f.type - n) = (before.length+(f.payload.length-left f.type))+n := by
      rw [length_append]
      omega
    rw [old,new,take_add,← drop_drop,drop_left]
  · rw [update_of_ne own,given,given,update_of_ne own]

lemma tryToCopyData (tracks : Tracks frames count left base pos b) (buflen : Nat) (type : MessageType) :
    ∃ left', Tracks frames count left' base pos (b.tryToCopyData buflen type).2 ∧
      given frames count left' = update (given frames count left) type
        (given frames count left type ++ (b.tryToCopyData buflen type).1) ∧
      (0 < buflen → (b.tryToCopyData buflen type).1 = [] → left type = 0) := by
  rw [ReadBuffer.tryToCopyData,tracks.available_eq]
  by_cases more : 0 < left type
  · rw [if_pos (decide_eq_true more)]
    obtain ⟨k,f,last,found,rfl,within⟩ := tracks.last type more
    have size : b.finish f.type-b.start f.type = left f.type := by
      have kept := tracks.kept f.type more
      rw [tracks.start,tracks.finish]
      omega
    rw [size]
    generalize chosen : min (left f.type) buflen = n
    have few : n ≤ left f.type := chosen ▸ min_le_left _ _
    dsimp only
    rw [tracks.slice_start more last found within few]
    refine ⟨update left f.type (left f.type-n),tracks.copy more few,given_copy last found within few,
      fun positive nothing => ?_⟩
    have none := congrArg List.length nothing
    rw [length_take,length_drop,List.length_nil] at none
    omega
  · rw [if_neg (by simpa using more)]
    refine ⟨left,tracks,?_,fun _ _ => Nat.eq_zero_of_not_pos more⟩
    rw [append_nil,update_eq_self]

lemma read (tracks : Tracks frames count left base pos b) (size : Nat)
    (space : b.buffer.length ≤ bufferThreshold) :
    Tracks frames count left base (pos+(b.read (((stream frames).drop pos).take size)).1)
      (b.read (((stream frames).drop pos).take size)).2 := by
  have behind : (shown (isTaken count frames) frames).drop pos = (stream frames).drop pos := by
    apply drop_shown_eq
    intro k f found closed
    rw [isTaken_of_some found,decide_eq_true_eq] at closed
    have mono : offset frames (k+1) ≤ offset frames (count f.type) := offset_mono frames closed
    have after := offset_succ found
    have arrived := tracks.arrived f.type
    rw [f.length_bytes,sp2HeaderSize] at after
    omega
  have length := tracks.length
  have base_le := tracks.base_le
  have pos_le := tracks.pos_le
  have fits := tracks.fits
  rw [ReadBuffer.read,if_neg (not_lt.mpr space)]
  generalize chosen : (((stream frames).drop pos).take size).take (bufferSize-b.buffer.length) = bytes
  have more : bytes.length = min (bufferSize-b.buffer.length)
    (min size ((stream frames).length-pos)) := by
    rw [← chosen,length_take,length_take,length_drop]
  have front : bytes <+: (stream frames).drop pos := chosen ▸ (List.take_prefix _ _).trans (List.take_prefix _ _)
  refine ⟨?_,by omega,by omega,by omega,tracks.start,tracks.finish,?_,tracks.kept,tracks.last,tracks.ahead⟩
  · have total : pos+bytes.length-base = (pos-base)+bytes.length := by omega
    have back : base+(pos-base) = pos := by omega
    rw [total,take_add,← tracks.contents,drop_drop,back,behind,← List.prefix_iff_eq_take.mp front]
  · intro type
    exact (tracks.arrived type).trans (Nat.le_add_right _ _)

lemma given_of_end (scanned : Scanned frames count left pos) (all : (stream frames).length ≤ pos)
    (done : left type = 0) : given frames count left type = payloads type frames := by
  have none : ∀ l g, frames[l]? = some g → g.type = type → count type ≤ l → count type+frames.length ≤ l := by
    intro l g found same next
    rw [← same] at next done
    exact absurd ((offset_le frames (l+1)).trans all) (not_le.mpr (scanned l g found next done))
  rw [given,← payloads_take_eq (Nat.le_add_right _ _) none,List.take_of_length_le (Nat.le_add_left _ _),done,
    Nat.sub_zero,List.take_length]

lemma buffer_tryToCopyData (b : ReadBuffer) (buflen : Nat) (type : MessageType) :
    (b.tryToCopyData buflen type).2.buffer = b.buffer := by
  rw [ReadBuffer.tryToCopyData]
  split <;> rfl

lemma devRead (quiet : Quiet frames) (short : ∀ f ∈ frames, f.payload.length < 32768)
    (tracks : Tracks frames count left base pos b) (size : Nat)
    (clear : (b.scanForPackets.cleanup.tryToCopyData buflen type).1 = [] →
      b.scanForPackets.cleanup.buffer.length ≤ bufferThreshold) :
    let result := devRead type buflen (((stream frames).drop pos).take size) b
    ∃ count' left' base', Tracks frames count' left' base' (pos+result.fetched) result.buffer ∧
      given frames count' left' =
        update (given frames count left) type (given frames count left type ++ result.copied) ∧
      ((stream frames).length ≤ pos → 0 < buflen → result.copied = [] →
        given frames count left type = payloads type frames) := by
  obtain ⟨count₁,left₁,scan,same,scanned⟩ := tracks.scanForPackets quiet short
  obtain ⟨base₁,clean⟩ := scan.cleanup scanned
  obtain ⟨left₂,copy,copied,empty⟩ := clean.tryToCopyData buflen type
  rw [same] at copied
  rw [ProtocolSplitter.devRead]
  dsimp only
  split
  next some => exact ⟨count₁,left₂,base₁,copy,copied,fun _ _ nothing => absurd nothing some⟩
  next nothing =>
    rw [not_not] at nothing
    rw [nothing,append_nil,update_eq_self] at copied
    have space : (b.scanForPackets.cleanup.tryToCopyData buflen type).2.buffer.length ≤ bufferThreshold := by
      rw [buffer_tryToCopyData]
      exact clear nothing
    have more := copy.read size space
    generalize ((b.scanForPackets.cleanup.tryToCopyData buflen type).2.read (((stream frames).drop pos).take size)) =
      fetched at more ⊢
    split
    next none =>
      rw [none] at more
      refine ⟨count₁,left₂,base₁,more,?_,fun all positive _ => ?_⟩
      · rw [copied,append_nil,update_eq_self]
      · rw [← same]
        exact given_of_end scanned all (empty positive nothing)
    next some =>
      obtain ⟨count₃,left₃,again,same',_⟩ := more.scanForPackets quiet short
      obtain ⟨left₄,last,copied',_⟩ := again.tryToCopyData buflen type
      rw [same',copied] at copied'
      refine ⟨count₃,left₄,base₁,last,copied',fun all _ _ => ?_⟩
      -- with everything read there is nothing more
      have bound := more.pos_le
      omega

end Tracks

def Sound (frames : List SplitFrame) (s : Splitter) : Prop :=
  ∃ count left base pos, Tracks frames count left base pos s.buffer ∧ s.rest = (stream frames).drop pos ∧
    s.received = given frames count left

namespace Sound
variable {frames : List SplitFrame} {s : Splitter}

lemma new (frames : List SplitFrame) : Sound frames (.new (stream frames)) := by
  refine ⟨fun _ => 0,fun _ => 0,0,0,⟨?_,le_rfl,Nat.zero_le _,Nat.zero_le _,fun _ => rfl,fun _ => rfl,fun _ => le_rfl,
    fun _ more => absurd more (lt_irrefl 0),fun _ more => absurd more (lt_irrefl 0),fun _ _ _ _ => Nat.zero_le _⟩,
    rfl,?_⟩
  · exact List.take_zero.symm
  · funext type
    exact List.take_nil.symm

lemma received_isPrefix (sound : Sound frames s) (type : MessageType) : s.received type <+: payloads type frames := by
  obtain ⟨count,left,_,_,_,_,received⟩ := sound
  have split := payloads_append type (frames.take (count type)) (frames.drop (count type))
  rw [List.take_append_drop] at split
  rw [received,given]
  exact (List.take_prefix _ _).trans ⟨_,split.symm⟩

lemma step (quiet : Quiet frames) (short : ∀ f ∈ frames, f.payload.length < 32768) (sound : Sound frames s)
    (clear : ¬s.Overflows call) :
    Sound frames (s.step call) ∧ (s.rest = [] → 0 < call.buflen → s.received call.type = payloads call.type frames ∨
        (s.received call.type).length < ((s.step call).received call.type).length) := by
  obtain ⟨count,left,base,pos,tracks,rest,received⟩ := sound
  have space (nothing : (s.buffer.scanForPackets.cleanup.tryToCopyData call.buflen call.type).1 = []) :
      s.buffer.scanForPackets.cleanup.buffer.length ≤ bufferThreshold :=
    not_lt.mp fun full => clear ⟨nothing,full⟩
  obtain ⟨count',left',base',tracks',copied,done⟩ := tracks.devRead quiet short call.size space
  rw [← rest] at tracks' copied done
  refine ⟨⟨count',left',base',_,tracks',?_,?_⟩,fun finished positive => ?_⟩
  · rw [← drop_drop,← rest]
    rfl
  · rw [copied,← received]
    rfl
  have all : (stream frames).length ≤ pos := List.drop_eq_nil_iff.mp (rest.symm.trans finished)
  by_cases nothing : (devRead call.type call.buflen (s.rest.take call.size) s.buffer).copied = []
  · left
    rw [received]
    exact done all positive nothing
  · right
    rw [Splitter.step]
    dsimp only
    rw [update_self,length_append]
    exact Nat.lt_add_of_pos_right (List.length_pos_iff.mpr nothing)

lemma length_received_le (s : Splitter) (call : SplitterRead) (type : MessageType) :
    (s.received type).length ≤ ((s.step call).received type).length := by
  rw [Splitter.step]
  dsimp only
  by_cases own : type = call.type
  · rw [own,update_self,length_append]
    exact Nat.le_add_right _ _
  · rw [update_of_ne own]

section
variable (quiet : Quiet frames) (short : ∀ f ∈ frames, f.payload.length < 32768) (sound : Sound frames s)
include quiet short sound

lemma run (clear : Along Splitter.step (fun s call => ¬s.Overflows call) s calls) :
    Sound frames (s.run calls) := by
  induction calls generalizing s with
  | nil => exact sound
  | cons call calls ih => exact ih (sound.step quiet short clear.1).1 clear.2

lemma complete
    {calls : List SplitterRead} (clear : Along Splitter.step (fun s call => ¬s.Overflows call) s calls)
    {type : MessageType} (done : s.rest = []) (enough : (payloads type frames).length ≤
      (s.received type).length+calls.countP (fun call => call.type = type ∧ 0 < call.buflen)) :
    (s.run calls).received type = payloads type frames := by
  induction calls generalizing s with
  | nil => exact (sound.received_isPrefix type).eq_of_length_le enough
  | cons call calls ih =>
    obtain ⟨next,progress⟩ := sound.step quiet short clear.1
    have empty : (s.step call).rest = [] := by
      rw [Splitter.step,done]
      exact List.drop_nil
    apply ih next clear.2 empty
    have more := length_received_le s call type
    rw [List.countP_cons] at enough
    by_cases reads : call.type = type ∧ 0 < call.buflen
    · obtain ⟨rfl,positive⟩ := reads
      rw [if_pos (decide_eq_true ⟨rfl,positive⟩)] at enough
      rcases progress done positive with all | less
      · rw [all] at more
        omega
      · omega
    · rw [if_neg (by simpa using reads)] at enough
      omega

end
end Sound

/-- If no frame is empty and no header starts inside of one, each reader receives the payloads of its frames. -/
theorem transparent_of_quiet (frames : List SplitFrame) (short : ∀ f ∈ frames, f.payload.length < 32768)
    (quiet : Quiet frames) : Transparent frames := by
  intro calls clear type
  refine ⟨((Sound.new frames).run quiet short clear).received_isPrefix type,?_⟩
  intro before after split finished enough
  rw [split,along_append] at clear
  rw [split,Splitter.run,List.foldl_append]
  exact ((Sound.new frames).run quiet short clear.1).complete quiet short clear.2 finished (by omega)

theorem transparent_of_quiet_two : let frames : List SplitFrame := [⟨.mavlink,[1,2]⟩,⟨.rtps,[3]⟩]
    (∀ f ∈ frames, f.payload.length < 32768) ∧ Quiet frames ∧ Transparent frames := by
  intro frames
  have short : ∀ f ∈ frames, f.payload.length < 32768 := by decide
  have quiet : Quiet frames := by
    refine ⟨List.cons_ne_nil _ _,fun i positive inside => ?_,List.cons_ne_nil _ _,fun i positive inside => ?_,trivial⟩
    · have silent : ∀ i < 6, 0 < i → headerAt (bytes ⟨.mavlink,[1,2]⟩ ++ stream [⟨.rtps,[3]⟩]) i = false ∧
          headerAt (bytes ⟨.mavlink,[1,2]⟩ ++ (stream [⟨.rtps,[3]⟩]).set 0 0) i = false := by decide +kernel
      exact silent i inside positive
    · have silent : ∀ i < 5, 0 < i → headerAt (bytes ⟨.rtps,[3]⟩ ++ stream []) i = false ∧
          headerAt (bytes ⟨.rtps,[3]⟩ ++ (stream []).set 0 0) i = false := by decide +kernel
      exact silent i inside positive
  exact ⟨short,quiet,transparent_of_quiet frames short quiet⟩

end AerialManipulator.ProtocolSplitter
