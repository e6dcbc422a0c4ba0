import Uam.CanDownload
import Uam.Library.Runs

/-! The CAN bootloader from reset to the application: `main` with its waits, the update, and the
flags behind the boot timer. -/
namespace AerialManipulator.CanBootloader
open Bytes Runs
open CanDownload (flashWrite uavcanServiceRetries)

abbrev Flash := Nat → Byte

def Flash.read (flash : Flash) (offset length : Nat) : List Byte :=
  (List.range length).map fun i => flash (offset+i)

structure Board where
  laterFlashedWords : Nat
  applicationLoadAddress : Nat
  applicationSize : Nat
  /-- `OPT_APPLICATION_IMAGE_LENGTH`. -/
  imageLength : Nat
  preferredNodeId : Nat
  uniqueId : List Byte
  /-- What is read for the image size where there is no descriptor. -/
  nullImageSize : Nat

def sizeMod : Nat := 2^32

/-- A length without its first byte; it wraps for an empty message. -/
def withoutFirst (length : Nat) : Nat := (length + (sizeMod - 1)) % sizeMod

section

def crc32Shift (acc : BitVec 32) : BitVec 32 := (acc >>> 1) ^^^ (0xedb88320#32 &&& -(acc &&& 1#32))

def crc32Signature (acc : BitVec 32) (bytes : List Byte) : BitVec 32 :=
  bytes.foldl (fun acc b => Nat.repeat crc32Shift 8 (acc ^^^ b.zeroExtend 32)) acc

def appDescriptorSignature : List Byte := [0x40,0xa2,0xe4,0xf1,0x64,0x68,0x91,0x06]

def descriptorSize : Nat := 36

/-- The first word is looked at in any case, the last never. -/
def findDescriptor (board : Board) (flash : Flash) : Option Nat :=
  ((List.range (max 1 ((board.applicationSize - 8 + 7) / 8))).map (8 * ·)).find?
    fun p => flash.read p 8 == appDescriptorSignature

def crc32Block1 (flash : Flash) (p : Nat) : Nat := decode (flash.read (p+8) 4)

def crc32Block2 (flash : Flash) (p : Nat) : Nat := decode (flash.read (p+12) 4)

def imageSize (flash : Flash) (p : Nat) : Nat := decode (flash.read (p+16) 4)

def majorVersion (p : Nat) : Nat := p+24

def Board.deferred (board : Board) : Nat := 4 * board.laterFlashedWords

def firstWords (board : Board) (flash : Flash) : List Byte := flash.read 0 board.deferred

def isAppValid (board : Board) (flash : Flash) (words : List Byte) : Bool :=
  (findDescriptor board flash).elim false fun p =>
    let length := imageSize flash p
    let block2Len := (length + (sizeMod - majorVersion p % sizeMod)) % sizeMod
    let block1 := crc32Signature (crc32Signature 0 (words.take board.deferred))
      (flash.read board.deferred (p+8-board.deferred))
    let block2 := crc32Signature 0 (flash.read (majorVersion p) block2Len)
    if decode (words.take 4) = 0xffffffff then false
    else if length > board.applicationSize ∨ length = 0 then false
    else if block2Len > board.applicationSize ∨ block2Len = 0 then false
    else block1.toNat == crc32Block1 flash p && block2.toNat == crc32Block2 flash p

end

inductive Stage where
  | off
  | autobaud
  | allocation
  | nodeInfo
  | beginUpdate
  | getInfo
  | erase
  | program
  | validate
  | commit
  | boot
  | failure
  | running
  deriving DecidableEq, Repr

structure Check where
  words : List Byte
  flash : Flash

structure State where
  stage : Stage
  flash : Flash
  appValid : Bool
  waitForGetnodeinfo : Bool
  appBlRequest : Bool
  sentNodeInfoResponse : Bool
  busSpeed : Nat
  nodeId : Nat
  tboot : Bool
  descriptor : Option Nat
  fwWord0 : List Byte
  imageSize : Nat
  /-- The last call of `is_app_valid` since the reset, if it was true. -/
  verdict : Option Check

/-- What `main` finds at a reset: the flash, the policy with its jumper, and the shared memory. -/
structure Startup where
  flash : Flash
  waitForGetnodeinfo : Bool
  /-- Bus speed and node id that an application passed. -/
  shared : Option (Nat × Nat)
  /-- The node id that an alternate application passed. -/
  altShared : Option Nat

structure Allocation where
  source : Nat
  payload : List Byte

structure GetInfo where
  received : Bool
  error : Nat
  flags : BitVec 8
  size : Nat

/-- `elapsed`: the time of the boot timer is over, if it was started. -/
inductive Event where
  | reset (found : Startup)
  | autobaud (elapsed : Bool)
  /-- One receive of the loop, and whether another message came while the follow-up was held back. -/
  | allocation (message : Option Allocation) (followUp elapsed : Bool)
  | nodeInfoSent
  | pollNodeInfo (elapsed : Bool)
  | beginFirmwareUpdate (request : Option Nat) (elapsed : Bool)
  | getInfo (responses : List GetInfo)
  /-- The result of `bl_flash_erase`, and what a failure leaves. -/
  | erase (status : Bool) (left : Flash)
  | program (status : Bool) (left : Flash) (words : List Byte)
  | validate
  /-- The result of the last write, and what a failure leaves. -/
  | commit (status : Bool) (left : Flash)
  | applicationRun

def canUndefined : Nat := 999

def anyNodeId : Nat := 0

def uavcanAnonymousNodeId : Nat := 0

def uniqueIdLength : Nat := 16

namespace State

def timerExpired (s : State) (elapsed : Bool) : Bool := s.tboot && elapsed

def timerStart (s : State) (condition : Bool) : State := {s with tboot := s.tboot || condition}

def checked (board : Board) (s : State) (words : List Byte) : State :=
  { s with
    descriptor := findDescriptor board s.flash
    verdict := if isAppValid board s.flash words then some ⟨words,s.flash⟩ else none }

def request (board : Board) (found : Startup) : Bool × Nat × Nat :=
  let app := found.shared.elim false fun common => common.1 != 0 && common.2 != 0
  if app then (true,found.shared.elim 0 (·.1),found.shared.elim 0 (·.2))
  else found.altShared.elim (false,0,board.preferredNodeId) fun node =>
    if node = 0 then (false,0,board.preferredNodeId) else (true,canUndefined,node)

def start (board : Board) (found : Startup) : State :=
  let asked := request board found
  let valid := isAppValid board found.flash (firstWords board found.flash)
  let cleared : State :=
    { stage := if asked.1 ∧ asked.2.1 ≠ canUndefined then .nodeInfo else .autobaud
      flash := found.flash
      appValid := valid
      waitForGetnodeinfo := found.waitForGetnodeinfo
      appBlRequest := asked.1
      sentNodeInfoResponse := false
      busSpeed := asked.2.1
      nodeId := asked.2.2
      tboot := false
      descriptor := none
      fwWord0 := List.replicate board.deferred 0
      imageSize := 0
      verdict := none }
  (cleared.checked board (firstWords board found.flash)).timerStart
    (valid && !found.waitForGetnodeinfo && !asked.1)

def configured (s : State) : State :=
  {s.timerStart (!s.appBlRequest && (s.appValid && !s.waitForGetnodeinfo)) with stage := .nodeInfo}

def autobaud (s : State) (elapsed : Bool) : State :=
  if s.timerExpired elapsed then {s with stage := .boot}
  else if s.busSpeed = canUndefined then s.configured
  else {s with stage := .allocation}

def allocationEnds (s : State) : State :=
  if s.nodeId = anyNodeId then {s with stage := .boot} else s.configured

def allocationPass (s : State) (elapsed : Bool) : State :=
  if s.timerExpired elapsed then s.allocationEnds else s

end State

inductive Heard where
  | skip
  | restart
  | assigned (nodeId : Nat)
  | chunk
  deriving DecidableEq

def matched : List Byte → List Byte → Nat
  | a :: as,b :: bs => if a = b then matched as bs+1 else 0
  | _,_ => 0

def heard (uniqueId : List Byte) (m : Allocation) : Heard :=
  let rxLen := withoutFirst m.payload.length
  let same := matched (uniqueId.take (min uniqueIdLength rxLen)) m.payload.tail
  if m.source = uavcanAnonymousNodeId then .skip
  else if same < rxLen then .restart
  else if same = uniqueIdLength then .assigned ((m.payload.headD 0).toNat / 2)
  else .chunk

def State.allocate (s : State) (uniqueId : List Byte) (message : Option Allocation) (followUp elapsed : Bool) : State :=
  message.elim (s.allocationPass elapsed) fun m =>
    match heard uniqueId m with
    | .skip => s.allocationPass elapsed
    | .restart => s
    | .assigned node => {s with nodeId := node}.allocationEnds
    | .chunk => if followUp then s else s.allocationPass elapsed

def entryTypeFlags : BitVec 8 := 1 ||| 8

def fileGetinfo (board : Board) (responses : List GetInfo) : Nat :=
  ((responses.take uavcanServiceRetries).find? fun r =>
    r.received && r.error == 0 && (r.flags &&& entryTypeFlags) != 0 && decide (0 < r.size) &&
      decide (r.size < board.imageLength)).elim 0 GetInfo.size

def jumps (board : Board) (flash : Flash) (size : Nat) : Bool :=
  decode (flash.read 0 4) != 0xffffffff && decide (board.applicationLoadAddress < decode (flash.read 4 4)) &&
    decide (decode (flash.read 4 4) < (board.applicationLoadAddress + size) % sizeMod)

namespace State

def nodeInfoSent (s : State) : State :=
  if s.stage ∈ [.off,.autobaud,.allocation,.running] then s else {s with sentNodeInfoResponse := true}

def pollNodeInfo (s : State) (elapsed : Bool) : State :=
  if s.sentNodeInfoResponse then
    {s.timerStart (s.appValid && (s.waitForGetnodeinfo || s.appBlRequest)) with stage := .beginUpdate}
  else if s.timerExpired elapsed then {s with stage := .boot}
  else s

def beginFirmwareUpdate (s : State) (request : Option Nat) (elapsed : Bool) : State :=
  if s.timerExpired elapsed then {s with stage := .boot}
  else request.elim s fun rxLength =>
    if withoutFirst rxLength = 0 then s else {s with tboot := false, stage := .getInfo}

def getInfo (board : Board) (s : State) (responses : List GetInfo) : State :=
  if fileGetinfo board responses < descriptorSize then {s with stage := .failure}
  else {s with imageSize := fileGetinfo board responses, appValid := false, stage := .erase}

def erase (s : State) (status : Bool) (left : Flash) : State :=
  if status then {s with flash := fun _ => 0xff, stage := .program} else {s with flash := left, stage := .failure}

def program (s : State) (status : Bool) (left : Flash) (words : List Byte) : State :=
  {s with flash := left, fwWord0 := words, stage := if status then .validate else .failure}

def validate (board : Board) (s : State) : State :=
  if isAppValid board s.flash s.fwWord0 then {s.checked board s.fwWord0 with stage := .commit}
  else {s.checked board s.fwWord0 with appValid := false, stage := .failure}

def commit (board : Board) (s : State) (status : Bool) (left : Flash) : State :=
  if status then {s with flash := flashWrite s.flash 0 (s.fwWord0.take board.deferred), stage := .boot}
  else {s with flash := left, stage := .failure}

def applicationRun (board : Board) (s : State) : State :=
  let size := s.descriptor.elim board.nullImageSize (CanBootloader.imageSize s.flash)
  {s with stage := if jumps board s.flash size then .running else .failure}

def during (s : State) (stage : Stage) (next : State) : State := if s.stage = stage then next else s

end State

def step (board : Board) (s : State) : Event → State
  | .reset found => .start board found
  | .autobaud elapsed => s.during .autobaud (s.autobaud elapsed)
  | .allocation message followUp elapsed => s.during .allocation (s.allocate board.uniqueId message followUp elapsed)
  | .nodeInfoSent => s.nodeInfoSent
  | .pollNodeInfo elapsed => s.during .nodeInfo (s.pollNodeInfo elapsed)
  | .beginFirmwareUpdate request elapsed => s.during .beginUpdate (s.beginFirmwareUpdate request elapsed)
  | .getInfo responses => s.during .getInfo (s.getInfo board responses)
  | .erase status left => s.during .erase (s.erase status left)
  | .program status left words => s.during .program (s.program status left words)
  | .validate => s.during .validate (s.validate board)
  | .commit status left => s.during .commit (s.commit board status left)
  | .applicationRun => s.during .boot (s.applicationRun board)

def off (flash : Flash) : State where
  stage := .off
  flash := flash
  appValid := false
  waitForGetnodeinfo := false
  appBlRequest := false
  sentNodeInfoResponse := false
  busSpeed := 0
  nodeId := 0
  tboot := false
  descriptor := none
  fwWord0 := []
  imageSize := 0
  verdict := none

def Unmodified (s : State) : Prop := ∃ words, s.verdict = some ⟨words,s.flash⟩

/-- The last check succeeded for the first words and the flash behind them; without an update the flash is the same. -/
def Launchable (board : Board) (s : State) : Prop :=
  ∃ c, s.verdict = some c ∧ isAppValid board c.flash c.words = true ∧
    s.flash = flashWrite c.flash 0 (c.words.take board.deferred) ∧ (s.appValid = true → s.flash = c.flash)

def Event.Assigns (uniqueId : List Byte) : Event → Prop
  | .allocation (some m) _ _ => heard uniqueId m ≠ .assigned anyNodeId
  | _ => True

section
variable {board : Board}

variable (flash : Flash)

lemma length_firstWords : (firstWords board flash).length = board.deferred := by simp [firstWords,Flash.read]

lemma flashWrite_firstWords : flashWrite flash 0 ((firstWords board flash).take board.deferred) = flash := by
  funext i
  rw [List.take_of_length_le (length_firstWords flash).le]
  unfold flashWrite
  split
  next inside =>
    have bound : i < board.deferred := by
      rw [length_firstWords] at inside
      omega
    simp [firstWords,Flash.read,bound]
  · rfl

def Prepared (board : Board) (s : State) : Prop :=
  match s.stage with
  | .getInfo => s.tboot = false
  | .erase | .program | .validate => s.appValid = false
  | .commit => s.appValid = false ∧ s.verdict = some ⟨s.fwWord0,s.flash⟩
  | .boot => Launchable board s
  | _ => True

/-- An application that counts as valid was checked as it is, and the boot timer only runs for one. -/
structure Guarded (board : Board) (s : State) : Prop where
  valid : s.appValid = true → s.verdict = some ⟨firstWords board s.flash,s.flash⟩
  sound : ∀ c, s.verdict = some c → isAppValid board c.flash c.words = true
  timer : s.tboot = true → s.appValid = true
  prepared : Prepared board s

lemma isAppValid_of_checked {s : State}
    (recorded : (s.checked board words).verdict = some c) : isAppValid board c.flash c.words := by
  unfold State.checked at recorded
  split at recorded
  next valid =>
    rw [← Option.some.inj recorded]
    exact valid
  · cases recorded

lemma guarded_off : Guarded board (off flash) := ⟨nofun,nofun,nofun,trivial⟩

lemma guarded_start (found : Startup) : Guarded board (.start board found) := by
  refine ⟨fun valid => if_pos valid,fun c recorded => isAppValid_of_checked recorded,fun timer => ?_,?_⟩
  · have started : (isAppValid board found.flash (firstWords board found.flash) &&
        !found.waitForGetnodeinfo && !(State.request board found).1) := timer
    simp only [Bool.and_eq_true] at started
    exact started.1.1
  · have waiting : (State.start board found).stage =
      if (State.request board found).1 ∧ (State.request board found).2.1 ≠ canUndefined then .nodeInfo
      else .autobaud := rfl
    unfold Prepared
    rw [waiting]
    by_cases asked : (State.request board found).1 ∧ (State.request board found).2.1 ≠ canUndefined
    · rw [if_pos asked]
      trivial
    · rw [if_neg asked]
      trivial

namespace Guarded
variable {s : State}

variable {stage : Stage}

section
variable (safe : Guarded board s)
include safe

lemma moved (ready : Prepared board {s with stage := stage}) :
    Guarded board {s with stage := stage} := ⟨safe.valid,safe.sound,safe.timer,ready⟩

lemma started (gated : condition = true → s.appValid = true)
    (ready : Prepared board {s.timerStart condition with stage := stage}) :
    Guarded board {s.timerStart condition with stage := stage} := by
  refine ⟨safe.valid,safe.sound,fun runs => ?_,ready⟩
  rcases Bool.or_eq_true_iff.mp runs with before | now
  · exact safe.timer before
  · exact gated now

lemma expired (expired : s.timerExpired elapsed) : Guarded board {s with stage := .boot} := by
  have valid : s.appValid := safe.timer (Bool.and_eq_true_iff.mp expired).1
  have recorded := safe.valid valid
  exact safe.moved ⟨_,recorded,safe.sound _ recorded,(flashWrite_firstWords s.flash).symm,fun _ => rfl⟩

lemma configured : Guarded board s.configured := by
  apply safe.started
  · intro gate
    simp only [Bool.and_eq_true] at gate
    exact gate.2.1
  · trivial

variable (elapsed : Bool)

lemma autobaud : Guarded board (s.autobaud elapsed) := by
  unfold State.autobaud
  split
  next over_time => exact safe.expired over_time
  · split
    · exact safe.configured
    · exact safe.moved trivial

lemma allocationPass : Guarded board (s.allocationPass elapsed) := by
  unfold State.allocationPass
  split
  next over_time =>
    unfold State.allocationEnds
    split
    · exact safe.expired over_time
    · exact safe.configured
  · exact safe

lemma allocate
    (assigns : ∀ m, message = some m → heard board.uniqueId m ≠ .assigned anyNodeId) (followUp elapsed : Bool) :
    Guarded board (s.allocate board.uniqueId message followUp elapsed) := by
  cases message with
  | none => exact safe.allocationPass elapsed
  | some m =>
    have nonzero := assigns m rfl
    simp only [State.allocate,Option.elim_some]
    split
    · exact safe.allocationPass elapsed
    · exact safe
    next node here =>
      have known : node ≠ anyNodeId := by
        intro zero
        rw [here,zero] at nonzero
        exact nonzero rfl
      rw [State.allocationEnds,if_neg known]
      have same : Guarded board {s with nodeId := node} :=
        ⟨safe.valid,safe.sound,safe.timer,safe.prepared⟩
      exact same.configured
    · split
      · exact safe
      · exact safe.allocationPass elapsed

lemma nodeInfoSent : Guarded board s.nodeInfoSent := by
  unfold State.nodeInfoSent
  split
  · exact safe
  · exact ⟨safe.valid,safe.sound,safe.timer,safe.prepared⟩

lemma pollNodeInfo : Guarded board (s.pollNodeInfo elapsed) := by
  unfold State.pollNodeInfo
  split
  · apply safe.started
    · intro gate
      exact (Bool.and_eq_true_iff.mp gate).1
    · trivial
  · split
    next over_time => exact safe.expired over_time
    · exact safe

lemma beginFirmwareUpdate (request : Option Nat) (elapsed : Bool) :
    Guarded board (s.beginFirmwareUpdate request elapsed) := by
  unfold State.beginFirmwareUpdate
  split
  next over_time => exact safe.expired over_time
  · cases request with
    | none => exact safe
    | some rxLength =>
      rw [Option.elim_some]
      generalize withoutFirst rxLength = pathLength
      split
      · exact safe
      · exact ⟨safe.valid,safe.sound,nofun,rfl⟩

lemma getInfo (stage : s.stage = .getInfo) (responses : List GetInfo) : Guarded board (s.getInfo board responses) := by
  have stopped : s.tboot = false := by
    have prepared := safe.prepared
    unfold Prepared at prepared
    rw [stage] at prepared
    exact prepared
  unfold State.getInfo
  split
  · exact safe.moved trivial
  · exact ⟨nofun,safe.sound,fun runs => absurd (stopped.symm.trans runs) (by decide),rfl⟩

lemma rewritten (invalid : s.appValid = false) (flash : Flash) (words : List Byte)
    (ready : Prepared board {s with flash := flash, fwWord0 := words, stage := stage}) :
    Guarded board {s with flash := flash, fwWord0 := words, stage := stage} :=
  ⟨fun valid => absurd (invalid.symm.trans valid) (by decide),safe.sound,safe.timer,ready⟩

lemma invalid_of_stage (stage : s.stage ∈ [.erase,.program,.validate,.commit]) : s.appValid = false := by
  have prepared := safe.prepared
  unfold Prepared at prepared
  simp only [List.mem_cons,List.not_mem_nil,or_false] at stage
  rcases stage with stage | stage | stage | stage
  · rw [stage] at prepared
    exact prepared
  · rw [stage] at prepared
    exact prepared
  · rw [stage] at prepared
    exact prepared
  · rw [stage] at prepared
    exact prepared.1

lemma erase (stage : s.stage = .erase) (status : Bool) (left : Flash) : Guarded board (s.erase status left) := by
  have invalid := safe.invalid_of_stage (by simp [stage])
  cases status with
  | true => exact safe.rewritten invalid _ s.fwWord0 invalid
  | false => exact safe.rewritten invalid _ s.fwWord0 trivial

lemma program (stage : s.stage = .program) (status : Bool) (left : Flash)
    (words : List Byte) : Guarded board (s.program status left words) := by
  have invalid := safe.invalid_of_stage (by simp [stage])
  cases status with
  | true => exact safe.rewritten invalid _ _ invalid
  | false => exact safe.rewritten invalid _ _ trivial

lemma validate (stage : s.stage = .validate) : Guarded board (s.validate board) := by
  have invalid := safe.invalid_of_stage (by simp [stage])
  unfold State.validate
  split
  next valid =>
    exact ⟨fun still => absurd (invalid.symm.trans still) (by decide),fun c recorded => isAppValid_of_checked recorded,
      safe.timer,invalid,if_pos valid⟩
  · exact ⟨nofun,fun c recorded => isAppValid_of_checked recorded,
      fun runs => absurd (invalid.symm.trans (safe.timer runs)) (by decide),trivial⟩

lemma commit (stage : s.stage = .commit) (status : Bool) (left : Flash) :
    Guarded board (s.commit board status left) := by
  have invalid := safe.invalid_of_stage (by simp [stage])
  cases status with
  | true =>
    have prepared := safe.prepared
    unfold Prepared at prepared
    rw [stage] at prepared
    exact safe.rewritten invalid _ s.fwWord0 ⟨_,prepared.2,safe.sound _ prepared.2,rfl,
      fun valid => absurd (invalid.symm.trans valid) (by decide)⟩
  | false => exact safe.rewritten invalid _ s.fwWord0 trivial

lemma applicationRun : Guarded board (s.applicationRun board) := by
  dsimp only [State.applicationRun]
  generalize jumps board s.flash (s.descriptor.elim board.nullImageSize (imageSize s.flash)) = good
  cases good with
  | true | false => exact safe.moved trivial

lemma during (then_next : s.stage = stage → Guarded board next) : Guarded board (s.during stage next) := by
  unfold State.during
  split
  next here => exact then_next here
  · exact safe

lemma step {e : Event} (assigns : e.Assigns board.uniqueId) : Guarded board (step board s e) := by
  cases e with
  | reset found => exact guarded_start found
  | autobaud elapsed => exact safe.during fun _ => safe.autobaud elapsed
  | allocation message followUp elapsed =>
    refine safe.during fun _ => safe.allocate ?_ followUp elapsed
    intro m same
    rw [same] at assigns
    exact assigns
  | nodeInfoSent => exact safe.nodeInfoSent
  | pollNodeInfo elapsed => exact safe.during fun _ => safe.pollNodeInfo elapsed
  | beginFirmwareUpdate request elapsed => exact safe.during fun _ => safe.beginFirmwareUpdate request elapsed
  | getInfo responses => exact safe.during fun stage => safe.getInfo stage responses
  | erase status left => exact safe.during fun stage => safe.erase stage status left
  | program status left words => exact safe.during fun stage => safe.program stage status left words
  | validate => exact safe.during safe.validate
  | commit status left => exact safe.during fun stage => safe.commit stage status left
  | applicationRun => exact safe.during fun _ => safe.applicationRun

end
end Guarded

/-- If no server assigns node id zero, `application_run` is reached only with an application that passed the check. -/
theorem launchable_of_run (flash : Flash) (events : List Event) (assigns : ∀ e ∈ events, e.Assigns board.uniqueId)
    (reached : (events.foldl (step board) (off flash)).stage = .boot) :
    Launchable board (events.foldl (step board) (off flash)) := by
  have admitted : Along (step board) (fun _ e => e.Assigns board.uniqueId) (off flash) events :=
    along_of_mem (fun e member _ => assigns e member) (off flash)
  have guarded : Guarded board (events.foldl (step board) (off flash)) :=
    foldl_invariant (Guarded board) (fun _ _ assigned before => before.step assigned) admitted (guarded_off flash)
  have prepared := guarded.prepared
  unfold Prepared at prepared
  rw [reached] at prepared
  exact prepared

end

/-! An update of a blank board with an image of 100 bytes. -/

def blankBoard : Board where
  laterFlashedWords := 1
  applicationLoadAddress := 0x08010000
  applicationSize := 256
  imageLength := 256
  preferredNodeId := 0
  uniqueId := List.replicate 16 7
  nullImageSize := 0

def sampleImage : List Byte :=
  [0x00,0x20,0x00,0x20,0x41,0x00,0x01,0x08] ++ appDescriptorSignature ++ [0xa3,0x83,0xf6,0xb6] ++ [0,0,0,0,100,0,0,0] ++
    List.replicate 72 0

def sampleAnswer : CanDownload.Attempt := ⟨true,[0,0] ++ sampleImage,by decide⟩

def sampleDownload : CanDownload.Download :=
  (CanDownload.fileReadAndProgram ⟨1,100,fun _ => true⟩ [sampleAnswer] (fun _ => 0xff) [0,0,0,0]).2

def sampleUpdate : List Event :=
  [.reset ⟨fun _ => 0xff,false,none,none⟩,.autobaud false,
    .allocation (some ⟨1,20 :: List.replicate 16 7⟩) false false,.nodeInfoSent,.pollNodeInfo false,
    .beginFirmwareUpdate (some 5) false,.getInfo [⟨true,0,9,100⟩],.erase true fun _ => 0,
    .program true sampleDownload.flash sampleDownload.fwWord0,.validate,.commit true fun _ => 0]

lemma sampleUpdate_end : (sampleUpdate.foldl (step blankBoard) (off fun _ => 0)).stage = .boot ∧
    (sampleUpdate.foldl (step blankBoard) (off fun _ => 0)).verdict.map (·.flash 0) = some 0xff ∧
    (sampleUpdate.foldl (step blankBoard) (off fun _ => 0)).flash 0 ≠ 0xff := by
  decide +kernel

lemma not_unmodified {s : State} (before : s.verdict.map (·.flash 0) = some b) (after : s.flash 0 ≠ b) :
    ¬Unmodified s := by
  intro unmodified
  obtain ⟨words,recorded⟩ := unmodified
  rw [recorded] at before
  exact after (Option.some.inj before)

lemma sampleUpdate_assigns : ∀ e ∈ sampleUpdate, e.Assigns blankBoard.uniqueId := by
  have assigned : heard blankBoard.uniqueId ⟨1,20::List.replicate 16 7⟩ ≠ .assigned anyNodeId := by decide
  simp only [sampleUpdate,List.forall_mem_cons,Event.Assigns,true_and]
  exact ⟨assigned,nofun⟩

/-- The first word is written after the check. -/
theorem not_unmodified_update : (∀ e ∈ sampleUpdate, e.Assigns blankBoard.uniqueId) ∧
    (sampleUpdate.foldl (step blankBoard) (off fun _ => 0)).stage = .boot ∧
    ¬ Unmodified (sampleUpdate.foldl (step blankBoard) (off fun _ => 0)) := by
  obtain ⟨reached,before,after⟩ := sampleUpdate_end
  exact ⟨sampleUpdate_assigns,reached,not_unmodified before after⟩

theorem launchable_of_run_update : Launchable blankBoard (sampleUpdate.foldl (step blankBoard) (off fun _ => 0)) :=
  launchable_of_run (fun _ => 0) sampleUpdate sampleUpdate_assigns sampleUpdate_end.1

end AerialManipulator.CanBootloader
