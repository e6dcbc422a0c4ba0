import Uam.Library.Bytes
import Uam.Library.Runs

/-! The serial bootloader: `bootloader` with its commands. The first word of an image is kept back
until the host asks to boot. -/
namespace AerialManipulator.SerialBootloader
open Bytes Runs

abbrev Word := BitVec 32

def erasedWord : Word := 0xffffffff

structure Board where
  fwSize : Nat
  snMaxLength : Nat
  bootDelayAddress : Option Nat

def wordAt (bytes : List Byte) (i : Nat) : Word := BitVec.ofNat 32 (decode (slice bytes (4 * i) 4))

/-- The variables of `bootloader` and the flash from the application on. The last two fields record the commands. -/
structure State where
  running : Bool
  blState : BitVec 32
  address : Nat
  firstWord : Word
  flashBuffer : List Byte
  flash : Nat → Word
  sent : Nat → Option Word
  firsts : List (List Byte)

/-- A command with the bytes that came in time, whether its end came, and the flash after a write. -/
inductive Command where
  | enter
  | getSync (eoc : Bool)
  | getDevice (arg : Option Nat) (eoc : Bool)
  | chipErase (eoc : Bool) (left : Nat → Word)
  | progMulti (arg : Option Byte) (data : List Byte) (eoc : Bool) (cell : Nat → Word → Word)
  | getCrc (eoc : Bool)
  | getOtp (index : Option Nat) (eoc : Bool)
  | getSn (index : Option Nat) (eoc : Bool)
  | getChip (eoc : Bool)
  | getChipDes (eoc : Bool)
  | setDelay (arg : Option Byte) (eoc : Bool) (cell : Nat → Word → Word)
  | boot (eoc : Bool) (cell : Nat → Word → Word)
  | debug
  | other

def stateProtoGetSync : BitVec 32 := 0x1
def stateProtoGetDevice : BitVec 32 := 0x2
def stateProtoChipErase : BitVec 32 := 0x4
def stateProtoProgMulti : BitVec 32 := 0x8
def stateProtoGetCrc : BitVec 32 := 0x10
def stateProtoGetSn : BitVec 32 := 0x40
def stateProtoGetChip : BitVec 32 := 0x80
def stateProtoGetChipDes : BitVec 32 := 0x100

def stateAllowsErase : BitVec 32 := stateProtoGetSync ||| stateProtoGetDevice

def stateAllowsReboot : BitVec 32 := stateAllowsErase ||| stateProtoProgMulti ||| stateProtoGetCrc

def bootDelaySignature1 : Word := 0x92c2ecff

def bootDelaySignature2 : Word := 0xc5057d5d

def bootDelayMax : Nat := 30

namespace State

def enter (board : Board) (s : State) : State :=
  {s with running := true, blState := 0, address := board.fwSize, firstWord := erasedWord}

def seen (s : State) (flag : BitVec 32) : State := {s with blState := s.blState ||| flag}

def bad (s : State) : State := {s with blState := 0}

def closed (s : State) (eoc : Bool) (next : State) : State := if eoc then next else s.bad

def allows (s : State) (mask : BitVec 32) : Bool := s.blState &&& mask == mask

def firstDirty (board : Board) (flash : Nat → Word) : Option Nat :=
  ((List.range ((board.fwSize + 3) / 4)).map (4 * ·)).find? fun a => flash a != erasedWord

/-- The loop that verifies the erase runs over the program address itself. -/
def chipErase (board : Board) (s : State) (left : Nat → Word) : State :=
  if s.allows stateAllowsErase then
    let s := {s with flash := left, sent := fun _ => none, firsts := []}
    (firstDirty board left).elim ({s with address := 0}.seen stateProtoChipErase) fun a => {s with address := a}
  else s.bad

def writeWord (s : State) (cell : Nat → Word → Word) (a : Nat) (w sent : Word) : State :=
  { s with
    flash := Function.update s.flash a (cell a w)
    sent := Function.update s.sent a (if cell a w = w then some sent else none) }

def programWords (cell : Nat → Word → Word) : List (Word × Word) → State → State × Bool
  | [],s => (s,true)
  | w :: rest,s =>
    let written := s.writeWord cell s.address w.1 w.2
    if cell s.address w.1 = w.1 then programWords cell rest {written with address := s.address+4}
    else (written,false)

/-- At address 0 the first word is saved and replaced, whether or not it was sent. -/
def saveFirst (s : State) (payload : List Byte) : State :=
  if s.address = 0 then
    { s with
      firstWord := wordAt s.flashBuffer 0
      flashBuffer := overlay s.flashBuffer [0xff,0xff,0xff,0xff]
      firsts := payload :: s.firsts }
  else s

def words (s : State) (payload : List Byte) : List (Word × Word) :=
  (List.range (payload.length / 4)).map fun i => (wordAt s.flashBuffer i,wordAt payload i)

def receive (s : State) (payload : List Byte) : State := {s with flashBuffer := overlay s.flashBuffer payload}

def progMulti (board : Board) (s : State) (arg : Option Byte) (data : List Byte) (eoc : Bool)
    (cell : Nat → Word → Word) : State :=
  arg.elim s.bad fun count =>
    if count.toNat % 4 ≠ 0 then s.bad
    else if s.address+count.toNat > board.fwSize then s.bad
    else
      let payload := data.take count.toNat
      let s := s.receive payload
      if payload.length < count.toNat then s.bad
      else s.closed eoc <|
        let s := s.saveFirst payload
        let result := programWords cell (s.words payload) s
        if result.2 then result.1.seen stateProtoProgMulti else result.1

def setDelay (board : Board) (s : State) (arg : Option Byte) (eoc : Bool) (cell : Nat → Word → Word) : State :=
  board.bootDelayAddress.elim s fun a => arg.elim s.bad fun delay =>
    if delay.toNat > bootDelayMax then s.bad
    else s.closed eoc <|
      if s.flash a ≠ bootDelaySignature1 ∨ s.flash (a+4) ≠ bootDelaySignature2 then s.bad
      else
        let value := (bootDelaySignature1 &&& 0xffffff00) ||| delay.zeroExtend 32
        s.writeWord cell a value value

def refused (s : State) : Bool := s.firstWord != erasedWord && !s.allows stateAllowsReboot

def boot (s : State) (cell : Nat → Word → Word) : State :=
  if s.refused then s.bad
  else if s.firstWord ≠ erasedWord then
    let written := {s with flash := Function.update s.flash 0 (cell 0 s.firstWord)}
    if cell 0 s.firstWord ≠ s.firstWord then written
    else {written with firstWord := erasedWord, running := false}
  else {s with running := false}

end State

def State.handle (board : Board) (s : State) : Command → State
  | .enter => s
  | .getSync eoc => s.closed eoc (s.seen stateProtoGetSync)
  | .getDevice arg eoc => arg.elim s.bad fun arg =>
      s.closed eoc (if 1 ≤ arg ∧ arg ≤ 5 then s.seen stateProtoGetDevice else s.bad)
  | .chipErase eoc left => s.closed eoc (s.chipErase board left)
  | .progMulti arg data eoc cell => s.progMulti board arg data eoc cell
  | .getCrc eoc => s.closed eoc (s.seen stateProtoGetCrc)
  | .getOtp index eoc => index.elim s.bad fun _ => s.closed eoc s
  | .getSn index eoc => index.elim s.bad fun index =>
      s.closed eoc (if index % 4 ≠ 0 ∨ index > board.snMaxLength - 4 then s.bad else s.seen stateProtoGetSn)
  | .getChip eoc => s.closed eoc (s.seen stateProtoGetChip)
  | .getChipDes eoc => s.closed eoc (s.seen stateProtoGetChipDes)
  | .setDelay arg eoc cell => s.setDelay board arg eoc cell
  | .boot eoc cell => s.closed eoc (s.boot cell)
  | .debug => s
  | .other => s

def step (board : Board) (s : State) : Command → State
  | .enter => s.enter board
  | command => if s.running then s.handle board command else s

def initial (flash : Nat → Word) (flashBuffer : List Byte) : State where
  running := false
  blState := 0
  address := 0
  firstWord := erasedWord
  flashBuffer := flashBuffer
  flash := flash
  sent := fun _ => none
  firsts := []

def Commits (s : State) : Command → Prop
  | .boot eoc _ => eoc = true ∧ s.running = true ∧ s.firstWord ≠ erasedWord ∧ s.allows stateAllowsReboot = true
  | _ => False

def Holds (s : State) : Prop := ∀ a ≠ 0, ∀ w, s.sent a = some w → s.flash a = w

/-- The deferred word was sent for address 0 since the last erase. -/
structure NewImage (s : State) : Prop where
  first : ∃ payload ∈ s.firsts, 4 ≤ payload.length ∧ s.firstWord = wordAt payload 0
  others : Holds s

def FirstSent (s : State) : Prop := ∃ payload, s.firsts.head? = some payload ∧ payload ≠ []

section
variable {board : Board} {s : State} {cell : Nat → Word → Word}

structure Tracks (s : State) : Prop where
  first : ∀ payload, s.firsts.head? = some payload → payload ≠ [] → s.firstWord ≠ erasedWord →
    s.firstWord = wordAt payload 0
  sizes : ∀ payload ∈ s.firsts, payload.length % 4 = 0
  holds : Holds s

lemma seen_tracks (tracks : Tracks s) (flag : BitVec 32) : Tracks (s.seen flag) :=
  ⟨tracks.first,tracks.sizes,tracks.holds⟩

lemma bad_tracks (tracks : Tracks s) : Tracks s.bad := ⟨tracks.first,tracks.sizes,tracks.holds⟩

lemma closed_tracks (tracks : Tracks s) (then_next : Tracks next) (eoc : Bool) : Tracks (s.closed eoc next) := by
  cases eoc with
  | true => exact then_next
  | false => exact bad_tracks tracks

lemma holds_writeWord (holds : Holds s) (meant : a ≠ 0 → w = sent) : Holds (s.writeWord cell a w sent) := by
  intro b nonzero v recorded
  by_cases same : b = a
  · subst same
    simp only [State.writeWord,Function.update_self] at recorded ⊢
    split at recorded
    next back => rw [back,meant nonzero,Option.some.inj recorded]
    · cases recorded
  · simp only [State.writeWord,Function.update_of_ne same] at recorded ⊢
    exact holds b nonzero v recorded

lemma programWords_tracks (cell : Nat → Word → Word) (ws : List (Word × Word)) (s : State) (tracks : Tracks s)
    (meant : ∀ i p, ws[i]? = some p → s.address + 4 * i ≠ 0 → p.1 = p.2) :
    Tracks (State.programWords cell ws s).1 := by
  induction ws generalizing s with
  | nil => exact tracks
  | cons w rest ih =>
    have written : Tracks (s.writeWord cell s.address w.1 w.2) :=
      ⟨tracks.first,tracks.sizes,holds_writeWord tracks.holds (meant 0 w rfl)⟩
    unfold State.programWords
    split
    · apply ih
      · exact ⟨written.first,written.sizes,written.holds⟩
      · intro i p here nonzero
        refine meant (i+1) p here ?_
        omega
    · exact written

lemma wordAt_overlay {old payload : List Byte} (inside : 4 * i + 4 ≤ payload.length) :
    wordAt (overlay old payload) i = wordAt payload i := by
  rw [wordAt,overlay,slice_append_left _ inside,wordAt]

lemma wordAt_replaced (buffer : List Byte) (later : i ≠ 0) :
    wordAt (overlay buffer [0xff,0xff,0xff,0xff]) i = wordAt buffer i := by
  obtain ⟨k,rfl⟩ := Nat.exists_eq_succ_of_ne_zero later
  have behind : 4 * k.succ = ([0xff,0xff,0xff,0xff] : List Byte).length + 4 * k := by
    rw [Nat.mul_succ,Nat.add_comm]
    rfl
  rw [wordAt,wordAt,overlay,behind,slice_append_right]
  simp only [slice,List.drop_drop]

lemma saveFirst_tracks {payload : List Byte} (tracks : Tracks s) (whole : payload.length % 4 = 0)
    (received : ∀ i, 4 * i + 4 ≤ payload.length → wordAt s.flashBuffer i = wordAt payload i) :
    Tracks (s.saveFirst payload) := by
  unfold State.saveFirst
  split
  · refine ⟨fun latest same some_data _ => ?_,fun payload member => ?_,tracks.holds⟩
    · obtain rfl : payload = latest := Option.some.inj same
      have long : 4 ≤ payload.length := by
        have positive := List.length_pos_iff.mpr some_data
        omega
      exact received 0 long
    · rcases List.mem_cons.mp member with rfl | earlier
      · exact whole
      · exact tracks.sizes payload earlier
  · exact tracks

lemma words_saveFirst {payload : List Byte}
    (received : ∀ i, 4 * i + 4 ≤ payload.length → wordAt s.flashBuffer i = wordAt payload i) (i : Nat) (p : Word × Word)
    (here : ((s.saveFirst payload).words payload)[i]? = some p) (nonzero : (s.saveFirst payload).address + 4 * i ≠ 0) :
    p.1 = p.2 := by
  obtain ⟨bound,rfl⟩ := List.getElem?_eq_some_iff.mp here
  have inside : 4 * i + 4 ≤ payload.length := by
    rw [State.words,List.length_map,List.length_range] at bound
    omega
  simp only [State.words,List.getElem_map,List.getElem_range]
  rw [← received i inside]
  unfold State.saveFirst at nonzero ⊢
  split at nonzero
  next zero =>
    rw [if_pos zero]
    apply wordAt_replaced
    intro first
    exact nonzero (by simp [zero,first])
  next other => rw [if_neg other]

section
variable (tracks : Tracks s)
include tracks

lemma progMulti_tracks (arg : Option Byte) (data : List Byte) (eoc : Bool) :
    Tracks (s.progMulti board arg data eoc cell) := by
  cases arg with
  | none => exact bad_tracks tracks
  | some count =>
    simp only [State.progMulti,Option.elim_some]
    split
    · exact bad_tracks tracks
    next multiple =>
      split
      · exact bad_tracks tracks
      · generalize eq : data.take count.toNat = payload
        have bound : payload.length ≤ count.toNat := eq ▸ List.length_take_le _ _
        have received : Tracks (s.receive payload) := ⟨tracks.first,tracks.sizes,tracks.holds⟩
        split
        · exact bad_tracks received
        next complete =>
          cases eoc with
          | false => exact bad_tracks received
          | true =>
            have whole : payload.length % 4 = 0 := by omega
            have buffered : ∀ i, 4 * i + 4 ≤ payload.length →
                wordAt (s.receive payload).flashBuffer i = wordAt payload i := fun i inside => wordAt_overlay inside
            have programmed := programWords_tracks cell _ _ (saveFirst_tracks received whole buffered)
              (words_saveFirst buffered)
            split
            · exact seen_tracks programmed _
            · exact programmed

lemma setDelay_tracks (arg : Option Byte) (eoc : Bool) : Tracks (s.setDelay board arg eoc cell) := by
  unfold State.setDelay
  cases board.bootDelayAddress with
  | none => exact tracks
  | some a =>
    cases arg with
    | none => exact bad_tracks tracks
    | some delay =>
      simp only [Option.elim_some,State.closed]
      split_ifs
      · exact bad_tracks tracks
      · exact bad_tracks tracks
      · exact ⟨tracks.first,tracks.sizes,holds_writeWord tracks.holds fun _ => rfl⟩
      · exact bad_tracks tracks

lemma chipErase_tracks (left : Nat → Word) : Tracks (s.chipErase board left) := by
  unfold State.chipErase
  split
  · cases State.firstDirty board left with
    | none | some a => exact ⟨nofun,nofun,nofun⟩
  · exact bad_tracks tracks

lemma boot_tracks : Tracks (s.boot cell) := by
  have unchanged : ∀ v, Holds {s with flash := Function.update s.flash 0 v} := by
    intro v a nonzero w recorded
    change Function.update s.flash 0 v a = w
    rw [Function.update_of_ne nonzero]
    exact tracks.holds a nonzero w recorded
  unfold State.boot
  split_ifs
  · exact bad_tracks tracks
  · exact ⟨tracks.first,tracks.sizes,unchanged _⟩
  · exact ⟨fun _ _ _ pending => absurd rfl pending,tracks.sizes,unchanged _⟩
  · exact ⟨tracks.first,tracks.sizes,tracks.holds⟩

lemma handle_tracks (command : Command) : Tracks (s.handle board command) := by
  cases command with
  | enter | debug | other => exact tracks
  | getSync eoc | getCrc eoc | getChip eoc | getChipDes eoc => exact closed_tracks tracks (seen_tracks tracks _) eoc
  | getDevice arg eoc =>
    cases arg with
    | none => exact bad_tracks tracks
    | some arg =>
      apply closed_tracks tracks
      split
      · exact seen_tracks tracks _
      · exact bad_tracks tracks
  | chipErase eoc left => exact closed_tracks tracks (chipErase_tracks tracks left) eoc
  | progMulti arg data eoc cell => exact progMulti_tracks tracks arg data eoc
  | getOtp index eoc =>
    cases index with
    | none => exact bad_tracks tracks
    | some index => exact closed_tracks tracks tracks eoc
  | getSn index eoc =>
    cases index with
    | none => exact bad_tracks tracks
    | some index =>
      apply closed_tracks tracks
      split
      · exact bad_tracks tracks
      · exact seen_tracks tracks _
  | setDelay arg eoc cell => exact setDelay_tracks tracks arg eoc
  | boot eoc cell => exact closed_tracks tracks (boot_tracks tracks) eoc

lemma step_tracks (command : Command) : Tracks (step board s command) := by
  have handled : Tracks (if s.running then s.handle board command else s) := by
    split
    · exact handle_tracks tracks command
    · exact tracks
  cases command with
  | enter => exact ⟨fun _ _ _ pending => absurd rfl pending,tracks.sizes,tracks.holds⟩
  | _ => exact handled

end
end

/-- If a word is committed only after data for address 0 since the last erase, with no empty payload
behind, BOOT commits the new image only. -/
theorem newImage_of_run (board : Board) (flash : Nat → Word) (flashBuffer : List Byte) (commands : List Command)
    (sent : Along (step board) (fun s command => Commits s command → FirstSent s)
      (initial flash flashBuffer) commands) :
    Along (step board) (fun s command => Commits s command → NewImage s) (initial flash flashBuffer) commands := by
  apply along_of_invariant Tracks (fun s command _ tracks => step_tracks tracks command) _ sent
  · exact ⟨nofun,nofun,nofun⟩
  intro s command first tracks commits
  obtain ⟨payload,latest,some_data⟩ := first commits
  have pending : s.firstWord ≠ erasedWord := by
    cases command with
    | boot eoc cell => exact commits.2.2.1
    | _ => exact commits.elim
  have member : payload ∈ s.firsts := List.mem_of_mem_head? latest
  have whole := tracks.sizes payload member
  have positive := List.length_pos_iff.mpr some_data
  exact ⟨⟨payload,member,by omega,tracks.first payload latest some_data pending⟩,tracks.holds⟩

def smallBoard : Board := ⟨64,12,none⟩

def powerUp : State := initial (fun _ => 0) (List.replicate 256 0)

def booting : Command := .boot true fun _ w => w

def opening : List Command := [.enter,.getSync true,.getDevice (some 1) true,.chipErase true fun _ => erasedWord]

def upload : List Command := opening ++ [.progMulti (some 4) [1,2,3,4] true fun _ w => w,.getCrc true]

theorem newImage_of_run_upload :
    Along (step smallBoard) (fun s command => Commits s command → NewImage s) powerUp (upload ++ [booting]) := by
  apply newImage_of_run
  rw [along_append]
  refine ⟨along_of_mem ?_ _,fun _ => ⟨[1,2,3,4],by decide +kernel,by decide⟩,trivial⟩
  simp [upload,opening,Commits]

def erasedTwice : List Command := upload ++ [.chipErase true fun _ => erasedWord]

def sentNothing : List Command := opening ++ [.progMulti (some 0) [] true fun _ w => w,.getCrc true]

lemma not_newImage {s : State} (short : ∀ payload ∈ s.firsts, payload.length < 4) : ¬NewImage s := by
  intro image
  obtain ⟨payload,member,long,_⟩ := image.first
  exact absurd long (Nat.not_le.mpr (short payload member))

/-- A word that was sent before the last erase is committed, and one that was never sent. -/
theorem not_newImage_of_run : ¬ Along (step smallBoard) (fun s command => Commits s command → NewImage s) powerUp
      (erasedTwice ++ [booting]) ∧
    ¬ Along (step smallBoard) (fun s command => Commits s command → NewImage s) powerUp
      (sentNothing ++ [booting]) := by
  refine ⟨fun along => ?_,fun along => ?_⟩
  all_goals
    have last := ((along_append _ _ _).mp along).2.1
    exact not_newImage (by decide +kernel) (last ⟨rfl,by decide +kernel⟩)

end AerialManipulator.SerialBootloader
