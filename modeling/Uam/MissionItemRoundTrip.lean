import Uam.MissionItems
import Mathlib.Analysis.SpecialFunctions.Trigonometric.Basic

/-! A downloaded item uploaded again: what survives of the item that was stored. -/
namespace AerialManipulator
open MavCmd
open Truncation

namespace MavCmd

@[simp] lemma ofNumber_number (cmd : MavCmd) : ofNumber cmd.number = some cmd := by
  cases cmd <;> rfl

lemma number_of_ofNumber {number : Nat} {cmd : MavCmd} (found : ofNumber number = some cmd) : cmd.number = number := by
  simpa using List.find?_some found

lemma number_injective : Function.Injective number := by
  intro a b same
  have found := ofNumber_number a
  rw [same,ofNumber_number] at found
  exact (Option.some.inj found).symm

def stored : MavCmd → MavCmd
  | .navRoi => .doSetRoi
  | cmd => cmd

end MavCmd

namespace MissionNumbers
variable {K : Type} {wp sent blank : MavlinkMissionItem K} {item base : MissionItem K K} {cmd : MavCmd}

lemma accepted_accept (accepted : (accept wp p).result = mavMissionAccepted) : p.result = mavMissionAccepted := by
  unfold accept at accepted
  split at accepted
  next ok => exact ok
  next refused => exact absurd accepted refused

lemma accepted_parseCommand (ok : (parseCommand intMode wp item parse).result = mavMissionAccepted) :
    ∃ cmd,ofNumber wp.command = some cmd ∧ parseCommand intMode wp item parse = parse cmd := by
  cases found : ofNumber wp.command with
  | none => simp [parseCommand,found,mavMissionUnsupported,mavMissionAccepted] at ok
  | some cmd => exact ⟨cmd,rfl,by simp [parseCommand,found]⟩

def HasCoordinates (frame : Nat) : Prop :=
  frame = mavFrameGlobal ∨ frame = mavFrameGlobalRelativeAlt ∨ frame = mavFrameGlobalInt ∨ frame = mavFrameGlobalRelativeAltInt

structure Keeps (item base : MissionItem K K) : Prop where
  lat : item.lat = base.lat
  lon : item.lon = base.lon
  latFloat : item.latFloat = base.latFloat
  lonFloat : item.lonFloat = base.lonFloat
  altitude : item.altitude = base.altitude
  altitudeIsRelative : item.altitudeIsRelative = base.altitudeIsRelative
  frame : item.frame = base.frame
  autocontinue : item.autocontinue = base.autocontinue
  origin : item.origin = base.origin

def Bare (item : MissionItem K K) (wp : MavlinkMissionItem K) : Prop :=
  item.timeInside = wp.param1 ∧ item.acceptanceRadius = wp.param2 ∧ item.loiterRadius = wp.param3 ∧ item.yaw = wp.param4

def frameName (frame : Nat) : Nat :=
  if frame = mavFrameGlobalInt then mavFrameGlobal
  else if frame = mavFrameGlobalRelativeAltInt then mavFrameGlobalRelativeAlt else frame

def SameItem (a b : MissionItem K K) : Prop :=
  {a with frame := frameName a.frame} = {b with frame := frameName b.frame}

def Unset (item : MissionItem K K) : Prop := item.frame = 0 ∧ item.autocontinue = false ∧ item.origin = 0

lemma Keeps.unset (keeps : Keeps item base) (unset : Unset base) : Unset item :=
  ⟨keeps.frame.trans unset.1,keeps.autocontinue.trans unset.2.1,keeps.origin.trans unset.2.2⟩

lemma eq_of_set_last (first : Unset a) (second : Unset b)
    (same : {a with frame := frame,autocontinue := autocontinue,origin := origin} =
      {b with frame := frame,autocontinue := autocontinue,origin := origin}) : a = b := by
  cases a
  cases b
  simp_all [Unset]

lemma same_accept_iff {p q : MissionParse K K} (ok : p.result = mavMissionAccepted)
    (again : q.result = mavMissionAccepted) (first : Unset p.item) (second : Unset q.item)
    (frame : frameName sent.frame = frameName wp.frame) (autocontinue : sent.autocontinue = wp.autocontinue) :
    (accept sent q).result = mavMissionAccepted ∧ SameItem (accept sent q).item (accept wp p).item ↔ q.item = p.item := by
  rw [accept,if_pos again,accept,if_pos ok]
  unfold SameItem
  rw [frame,autocontinue]
  constructor
  · rintro ⟨-,same⟩
    exact eq_of_set_last second first same
  · intro same
    rw [same]
    exact ⟨again,rfl⟩

def stamped (wp : MavlinkMissionItem K) (item : MissionItem K K) : MissionItem K K :=
  {item with frame := wp.frame,autocontinue := wp.autocontinue,origin := originMavlink}

/-- The accepted commands whose formatting reports an error, which nobody looks at. -/
def unformatted (frame : Nat) : List MavCmd :=
  if frame = mavFrameMission then
    [.navDelay,.navReturnToLaunch,.doSetRoiWpnextOffset,.doSetRoiNone,.conditionDelay,.conditionDistance]
  else [.navRoi,.doSetRoi,.doSetRoiLocation,.conditionGate]

variable [Field K]

def located (wp : MavlinkMissionItem K) : MissionItem K K :=
  { (MissionItem.zero : MissionItem K K) with
    lat := (wp.x.toInt : K) * 1e-7
    lon := (wp.y.toInt : K) * 1e-7
    altitude := wp.z
    altitudeIsRelative := wp.frame = mavFrameGlobalRelativeAlt ∨ wp.frame = mavFrameGlobalRelativeAltInt }

def plain (wp : MavlinkMissionItem K) : MissionItem K K :=
  { (MissionItem.zero : MissionItem K K) with
    timeInside := wp.param1
    acceptanceRadius := wp.param2
    loiterRadius := wp.param3
    yaw := wp.param4
    latFloat := (wp.x.toInt : K)
    lonFloat := (wp.y.toInt : K)
    altitude := wp.z }

lemma unset_located (wp : MavlinkMissionItem K) : Unset (located wp) := ⟨rfl,rfl,rfl⟩

lemma unset_plain (wp : MavlinkMissionItem K) : Unset (plain wp) := ⟨rfl,rfl,rfl⟩

lemma formatParameters_stamped (wp blank : MavlinkMissionItem K) (item : MissionItem K K) (cmd : MavCmd) :
    formatParameters (stamped wp item) blank cmd = formatParameters item blank cmd := by
  cases cmd <;> rfl

structure SameSheet (sent wp : MavlinkMissionItem K) : Prop where
  frame : sent.frame = wp.frame
  command : sent.command = wp.command
  autocontinue : sent.autocontinue = wp.autocontinue
  located : located sent = located wp

lemma sent_parameters (item : MissionItem K K) (wp : MavlinkMissionItem K) (cmd : MavCmd) (seq : Nat) (current : Bool) :
    SameSheet {(formatParameters item wp cmd).message with seq := seq,current := current} wp := by
  cases cmd <;> exact ⟨rfl,rfl,rfl,rfl⟩

variable [LinearOrder K] [FloorRing K] (numbers : MissionNumbers K) (x : K)

lemma radians_degrees : numbers.radians (numbers.degrees x) = x := by
  have pos := numbers.pi_pos.ne'
  unfold radians degrees
  field_simp

lemma parse_coordinates (frame : HasCoordinates wp.frame) : numbers.parseMavlinkMissionItem true wp =
      accept wp (parseCommand true wp (located wp) (numbers.parseCoordinates true wp (located wp))) := by
  unfold parseMavlinkMissionItem located
  rcases frame with frame | frame | frame | frame <;> simp [frame,mavFrameGlobal,mavFrameGlobalRelativeAlt,
    mavFrameGlobalInt,mavFrameGlobalRelativeAltInt]

lemma parse_parameters (frame : wp.frame = mavFrameMission) : numbers.parseMavlinkMissionItem true wp =
      accept wp (parseCommand true wp (plain wp) (numbers.parseParameters true wp (plain wp))) := by
  unfold parseMavlinkMissionItem plain
  simp [frame,mavFrameMission,mavFrameGlobal,mavFrameGlobalRelativeAlt,mavFrameGlobalInt,mavFrameGlobalRelativeAltInt]

lemma frame_of_accepted (ok : (numbers.parseMavlinkMissionItem true wp).result = mavMissionAccepted) :
    HasCoordinates wp.frame ∨ wp.frame = mavFrameMission := by
  unfold parseMavlinkMissionItem at ok
  split at ok
  next frame => exact .inl (by unfold HasCoordinates; tauto)
  · split at ok
    next frame => exact .inr frame
    · simp [mavMissionUnsupportedFrame,mavMissionAccepted] at ok

lemma parseRoi_accepted (ok : (numbers.parseRoi true wp base).result = mavMissionAccepted) :
    (numbers.toInt.convert wp.param1 = mavRoiLocation ∧ numbers.parseRoi true wp base = ⟨mavMissionAccepted,true,
      {base with navCmd := doSetRoi.number,timeInside := (mavRoiLocation : K),altitude := wp.z}⟩) ∨
    (numbers.toInt.convert wp.param1 = mavRoiNone ∧ numbers.parseRoi true wp base = ⟨mavMissionAccepted,true,
      {base with navCmd := doSetRoi.number,timeInside := (mavRoiNone : K)}⟩) := by
  unfold parseRoi at ok ⊢
  split
  next location => exact .inl ⟨location,rfl⟩
  next other =>
    rw [if_neg other] at ok
    split
    next none => exact .inr ⟨none,rfl⟩
    next unknown =>
      rw [if_neg unknown] at ok
      cases ok

lemma keeps_parseCoordinates (altitude : wp.z = base.altitude) (command : cmd.number = wp.command)
    (ok : (numbers.parseCoordinates true wp base cmd).result = mavMissionAccepted) :
    Keeps (numbers.parseCoordinates true wp base cmd).item base ∧
      (numbers.parseCoordinates true wp base cmd).item.navCmd = cmd.stored.number := by
  have roi (ok : (numbers.parseRoi true wp base).result = mavMissionAccepted) :
      Keeps (numbers.parseRoi true wp base).item base ∧
        (numbers.parseRoi true wp base).item.navCmd = doSetRoi.number := by
    rcases numbers.parseRoi_accepted ok with ⟨-,same⟩ | ⟨-,same⟩
    · rw [same]
      exact ⟨⟨rfl,rfl,rfl,rfl,altitude,rfl,rfl,rfl,rfl⟩,rfl⟩
    · rw [same]
      exact ⟨(by constructor <;> rfl),rfl⟩
  cases cmd with
  | navRoi | doSetRoi => exact roi ok
  | doSetRoiLocation => exact ⟨⟨rfl,rfl,rfl,rfl,altitude,rfl,rfl,rfl,rfl⟩,rfl⟩
  | _ =>
    first
      | exact ⟨(by constructor <;> rfl),rfl⟩
      | exact ⟨(by constructor <;> rfl),command.symm⟩
      | cases ok

@[simp] lemma flag_survives : (0 < if 0 < x then (1 : K) else 0) ↔ 0 < x := by
  split <;> simp [*]

lemma cast_toUint16 : (((numbers.toUint16.convert x).toNat : Nat) : K) = (numbers.toUint16.convert x : K) := by
  rw [← Int.cast_natCast,Int.toNat_of_nonneg (numbers.toUint16.bounded x).1]

lemma keeps_parseParameters (command : cmd.number = wp.command)
    (ok : (numbers.parseParameters true wp (plain wp) cmd).result = mavMissionAccepted) :
    Keeps (numbers.parseParameters true wp (plain wp) cmd).item (plain wp) ∧
      Bare (numbers.parseParameters true wp (plain wp) cmd).item wp ∧
      (numbers.parseParameters true wp (plain wp) cmd).item.navCmd = cmd.stored.number := by
  have roi (ok : (numbers.parseRoiMode true wp (plain wp)).result = mavMissionAccepted) :
      Keeps (numbers.parseRoiMode true wp (plain wp)).item (plain wp) ∧ Bare (numbers.parseRoiMode true wp (plain wp)).item wp ∧
        (numbers.parseRoiMode true wp (plain wp)).item.navCmd = doSetRoi.number := by
    unfold parseRoiMode at ok ⊢
    dsimp only at ok ⊢
    split
    · exact ⟨(by constructor <;> rfl),⟨rfl,rfl,rfl,rfl⟩,rfl⟩
    next unknown =>
      rw [if_neg unknown] at ok
      cases ok
  cases cmd with
  | navRoi | doSetRoi => exact roi ok
  | doJump => exact ⟨(by constructor <;> rfl),⟨rfl,rfl,rfl,rfl⟩,rfl⟩
  | _ =>
    first
      | exact ⟨(by constructor <;> rfl),⟨rfl,rfl,rfl,rfl⟩,command.symm⟩
      | cases ok

lemma formatCoordinates_stamped (wp blank : MavlinkMissionItem K) (item : MissionItem K K) (cmd : MavCmd) :
    numbers.formatCoordinates (stamped wp item) blank cmd = numbers.formatCoordinates item blank cmd := by
  cases cmd <;> rfl

lemma sent_coordinates (item : MissionItem K K) (wp : MavlinkMissionItem K) (cmd : MavCmd) (seq : Nat) (current : Bool) :
    SameSheet {(numbers.formatCoordinates item wp cmd).message with seq := seq,current := current} wp := by
  cases cmd <;> exact ⟨rfl,rfl,rfl,rfl⟩

def coordinatesSheet (item : MissionItem K K) : MavlinkMissionItem K :=
  { (MavlinkMissionItem.zero : MavlinkMissionItem K) with
    frame := if item.altitudeIsRelative then mavFrameGlobalRelativeAltInt else mavFrameGlobalInt
    command := item.navCmd
    autocontinue := item.autocontinue
    x := numbers.toInt32 (item.lat * 1e7)
    y := numbers.toInt32 (item.lon * 1e7)
    z := item.altitude }

def parametersSheet (item : MissionItem K K) : MavlinkMissionItem K :=
  { (MavlinkMissionItem.zero : MavlinkMissionItem K) with
    frame := item.frame
    command := item.navCmd
    autocontinue := item.autocontinue
    param1 := item.timeInside
    param2 := item.acceptanceRadius
    param3 := item.loiterRadius
    param4 := item.yaw
    x := numbers.toInt32 item.latFloat
    y := numbers.toInt32 item.lonFloat
    z := item.altitude }

lemma format_coordinates (frame : item.frame ≠ mavFrameMission)
    (found : item.navCmd = cmd.number) : numbers.formatMavlinkMissionItem true item .zero =
      numbers.formatCoordinates item (numbers.coordinatesSheet item) cmd := by
  unfold formatMavlinkMissionItem
  rw [if_neg frame,formatCommand,found,ofNumber_number]
  simp [coordinatesSheet,found,MavlinkMissionItem.zero]

lemma format_parameters (frame : item.frame = mavFrameMission)
    (found : item.navCmd = cmd.number) : numbers.formatMavlinkMissionItem true item .zero =
      formatParameters item (numbers.parametersSheet item) cmd := by
  unfold formatMavlinkMissionItem
  rw [if_pos frame,formatCommand,found,ofNumber_number]
  simp [parametersSheet,found,MavlinkMissionItem.zero]

structure Returns (wp : MavlinkMissionItem K) (seq : Nat) (current : Bool) (cmd : MavCmd) (survives : Prop) : Prop where
  command : cmd.number = wp.command
  again : (numbers.parseMavlinkMissionItem true
      (numbers.sentItem true seq current (numbers.parseMavlinkMissionItem true wp).item)).result = mavMissionAccepted ∧
    SameItem (numbers.parseMavlinkMissionItem true
      (numbers.sentItem true seq current (numbers.parseMavlinkMissionItem true wp).item)).item
      (numbers.parseMavlinkMissionItem true wp).item ↔ survives
  formatted : (numbers.formatMavlinkMissionItem true (numbers.parseMavlinkMissionItem true wp).item .zero).ok = true ↔
    cmd ∉ unformatted wp.frame

lemma formatted_coordinates (item : MissionItem K K) (blank : MavlinkMissionItem K) (frame : wp.frame ≠ mavFrameMission)
    (ok : (numbers.parseCoordinates true wp base cmd).result = mavMissionAccepted) :
    (numbers.formatCoordinates item blank cmd.stored).ok ↔ cmd ∉ unformatted wp.frame := by
  rw [unformatted,if_neg frame]
  cases cmd with
  | navRoi | doSetRoi | doSetRoiLocation | conditionGate => exact iff_of_false Bool.false_ne_true (by decide)
  | _ =>
    first
      | exact iff_of_true rfl (by decide)
      | cases ok

lemma frameName_sheet (frame : HasCoordinates wp.frame)
    (relative : item.altitudeIsRelative = (located wp).altitudeIsRelative) :
    HasCoordinates (numbers.coordinatesSheet item).frame ∧ frameName (numbers.coordinatesSheet item).frame = frameName wp.frame := by
  have relative : item.altitudeIsRelative =
    decide (wp.frame = mavFrameGlobalRelativeAlt ∨ wp.frame = mavFrameGlobalRelativeAltInt) := relative
  unfold coordinatesSheet HasCoordinates
  dsimp only
  rcases frame with frame | frame | frame | frame <;> rw [relative,frame] <;> exact ⟨by decide,by decide⟩

lemma parse_again_coordinates (frame : HasCoordinates sent.frame)
    (start : located sent = located wp) (named : sent.command = cmd.number) :
    numbers.parseMavlinkMissionItem true sent = accept sent (numbers.parseCoordinates true sent (located wp) cmd) := by
  rw [numbers.parse_coordinates frame,parseCommand,named,ofNumber_number,start]
  rfl

lemma returns_of {survives : Prop}
    (command : cmd.number = wp.command) (parsed : numbers.parseMavlinkMissionItem true wp = accept wp p)
    (accepted : p.result = mavMissionAccepted) (first : Unset p.item)
    (formatted : numbers.formatMavlinkMissionItem true (stamped wp p.item) .zero = m)
    (ok : m.ok ↔ cmd ∉ unformatted wp.frame)
    (again : numbers.parseMavlinkMissionItem true {m.message with seq := seq,current := current} =
      accept {m.message with seq := seq,current := current} q)
    (result : q.result = mavMissionAccepted) (second : Unset q.item)
    (frames : frameName m.message.frame = frameName wp.frame) (autocontinue : m.message.autocontinue = wp.autocontinue)
    (same : q.item = p.item ↔ survives) : numbers.Returns wp seq current cmd survives := by
  have item : (accept wp p).item = stamped wp p.item := by
    rw [accept,if_pos accepted]
    rfl
  rw [← item] at formatted
  refine ⟨command,?_,?_⟩
  · rw [parsed,sentItem,formatted,again,← same]
    exact same_accept_iff accepted result first second frames autocontinue
  · rw [parsed,formatted]
    exact ok

lemma formatted_parameters (item : MissionItem K K) (blank : MavlinkMissionItem K) (frame : wp.frame = mavFrameMission)
    (ok : (numbers.parseParameters true wp base cmd).result = mavMissionAccepted) :
    (formatParameters item blank cmd.stored).ok ↔ cmd ∉ unformatted wp.frame := by
  rw [unformatted,if_pos frame]
  cases cmd with
  | navDelay | navReturnToLaunch | doSetRoiWpnextOffset | doSetRoiNone | conditionDelay | conditionDistance =>
    exact iff_of_false Bool.false_ne_true (by decide)
  | _ =>
    first
      | exact iff_of_true rfl (by decide)
      | cases ok

lemma parse_again_parameters (frame : sent.frame = mavFrameMission) (named : sent.command = cmd.number) :
    numbers.parseMavlinkMissionItem true sent = accept sent (numbers.parseParameters true sent (plain sent) cmd) := by
  rw [numbers.parse_parameters frame,parseCommand,named,ofNumber_number]
  rfl

variable [IsStrictOrderedRing K]

lemma twoPi_pos : 0 < numbers.pi * 2.0 := mul_pos numbers.pi_pos (by norm_num)

lemma wrap2pi_eq : numbers.wrap2pi x = toIcoMod numbers.twoPi_pos 0 x := by
  unfold wrap2pi wrapFloating
  split
  next inside => exact ((toIcoMod_eq_self _).mpr (by simpa using inside)).symm
  · rw [toIcoMod,toIcoDiv_eq_floor]
    simp [div_eq_mul_inv,mul_comm]

@[simp] lemma heading_survives :
    numbers.wrap2pi (numbers.radians (numbers.degrees (numbers.wrap2pi x))) = numbers.wrap2pi x := by
  rw [radians_degrees,wrap2pi_eq,wrap2pi_eq,toIcoMod_toIcoMod]

lemma heading_eq_iff (a b : K) : numbers.wrap2pi (numbers.radians a) = numbers.wrap2pi (numbers.radians b) ↔
    ∃ turns : Int,b = a + 360 * turns := by
  have pos := numbers.pi_pos
  have ne := pos.ne'
  rw [wrap2pi_eq,wrap2pi_eq,toIcoMod_inj,AddCommGroup.modEq_iff_zsmul]
  refine exists_congr fun turns => ?_
  have scaled : numbers.radians b - numbers.radians a = (b - a) * (numbers.pi / 180) := by
    unfold radians
    norm_num
    ring
  rw [scaled,zsmul_eq_mul]
  constructor
  · intro same
    field_simp at same
    linarith
  · intro same
    rw [same]
    field_simp
    norm_num
    ring

@[simp] lemma toInt32_toInt (word : BitVec 32) : numbers.toInt32 (word.toInt : K) = word := by
  have below := BitVec.le_toInt word
  have above := BitVec.toInt_lt (x := word)
  rw [toInt32,nearest_intCast,numbers.toInt.convert_intCast (by simpa using below) (by omega),BitVec.ofInt_toInt]

@[simp] lemma toInt32_degrees (word : BitVec 32) : numbers.toInt32 ((word.toInt : K) * 1e-7 * 1e7) = word := by
  have whole : (word.toInt : K) * 1e-7 * 1e7 = word.toInt := by
    rw [mul_assoc]
    norm_num
  rw [whole,toInt32_toInt]

def CoordinatesSurvive (wp : MavlinkMissionItem K) : MavCmd → Prop
  | .navLoiterTime => ∃ turns : Int,wp.param4 = (if 0 < wp.param4 then 1 else 0) + 360 * turns
  | .navRoi | .doSetRoi => numbers.toInt.convert wp.param1 ≠ mavRoiLocation
  | _ => True

@[simp] lemma precision_survives :
    numbers.toUint16.convert (((numbers.toUint16.convert x).toNat : Nat) : K) = numbers.toUint16.convert x := by
  rw [cast_toUint16,Conversion.convert_convert]

@[simp] lemma vertices_survive :
    numbers.toUint16.convert ((((numbers.toUint16.convert x).toNat : Nat) : K)+0.5) = numbers.toUint16.convert x := by
  have bounds := numbers.toUint16.bounded x
  rw [cast_toUint16,numbers.toUint16.convert_add_half bounds.1 bounds.1 bounds.2]

lemma parseRoi_zero (param1 : wp.param1 = 0) : numbers.parseRoi true wp base =
      ⟨mavMissionAccepted,true,{base with navCmd := doSetRoi.number,timeInside := (mavRoiNone : K)}⟩ := by
  have zero : numbers.toInt.convert wp.param1 = mavRoiNone := by
    have cut : truncate wp.param1 = mavRoiNone := by simp [param1,truncate,mavRoiNone]
    rw [numbers.toInt.fits _ (by rw [cut]; decide) (by rw [cut]; decide),cut]
  rw [parseRoi,if_neg (by rw [zero]; decide),if_pos zero]

lemma roi_again (ok : (numbers.parseRoi true wp base).result = mavMissionAccepted) (param1 : sent.param1 = 0) :
    (numbers.parseRoi true sent base).result = mavMissionAccepted ∧
      ((numbers.parseRoi true sent base).item = (numbers.parseRoi true wp base).item ↔
        numbers.toInt.convert wp.param1 ≠ mavRoiLocation) := by
  rw [numbers.parseRoi_zero param1]
  refine ⟨rfl,?_⟩
  rcases numbers.parseRoi_accepted ok with ⟨location,same⟩ | ⟨none,same⟩
  · rw [same]
    refine iff_of_false (fun equal => ?_) (not_not_intro location)
    have modes : (mavRoiNone : K) = (mavRoiLocation : K) := congrArg MissionItem.timeInside equal
    exact absurd (Int.cast_injective modes) (by decide)
  · rw [same]
    exact iff_of_true rfl (by rw [none]; decide)

lemma coordinates_again (seq : Nat) (current : Bool)
    (command : cmd.number = wp.command) (ok : (numbers.parseCoordinates true wp base cmd).result = mavMissionAccepted)
    (param1 : blank.param1 = 0) (z : blank.z = wp.z) (named : blank.command = cmd.stored.number) :
    let stored := (numbers.parseCoordinates true wp base cmd).item
    let sent := {(numbers.formatCoordinates stored blank cmd.stored).message with seq := seq,current := current}
    (numbers.parseCoordinates true sent base cmd.stored).result = mavMissionAccepted ∧
      ((numbers.parseCoordinates true sent base cmd.stored).item = stored ↔ numbers.CoordinatesSurvive wp cmd) := by
  cases cmd with
  | navLoiterTime =>
    refine ⟨rfl,?_⟩
    simp only [parseCoordinates,formatCoordinates,stored,CoordinatesSurvive,MissionItem.mk.injEq]
    simp [heading_eq_iff]
  | navRoi | doSetRoi => exact numbers.roi_again ok param1
  | _ =>
    first
      | refine ⟨rfl,iff_of_true ?_ trivial⟩
        simp [parseCoordinates,formatCoordinates,stored,← command,named,z]
      | cases ok

/-- A command without coordinates keeps its parameters: those of a jump are also stored as integers. -/
def ParametersSurvive (wp : MavlinkMissionItem K) : MavCmd → Prop
  | .doJump => (∃ index : Int,-2^15 ≤ index ∧ index < 2^15 ∧ wp.param1 = index) ∧ ∃ count : Nat,count < 2^16 ∧ wp.param2 = count
  | _ => True

lemma convert_eq_iff {low high : Int} (conversion : Conversion K low high) (x : K) :
    (conversion.convert x : K) = x ↔ ∃ n : Int,low ≤ n ∧ n ≤ high ∧ x = n := by
  constructor
  · intro same
    exact ⟨_,(conversion.bounded x).1,(conversion.bounded x).2,same.symm⟩
  · rintro ⟨n,below,above,rfl⟩
    rw [conversion.convert_intCast below above]

lemma count_eq_iff : (((numbers.toUint16.convert x).toNat : Nat) : K) = x ↔ ∃ count : Nat,count < 2^16 ∧ x = count := by
  rw [cast_toUint16,convert_eq_iff]
  constructor
  · rintro ⟨n,below,above,same⟩
    refine ⟨n.toNat,by omega,?_⟩
    rw [same,← Int.cast_natCast,Int.toNat_of_nonneg below]
  · rintro ⟨count,small,same⟩
    exact ⟨count,by omega,by omega,by rw [same,Int.cast_natCast]⟩

lemma index_eq_iff : (numbers.toInt16.convert x : K) = x ↔ ∃ index : Int,-2^15 ≤ index ∧ index < 2^15 ∧ x = index := by
  rw [convert_eq_iff]
  refine exists_congr fun index => and_congr_right fun _ => and_congr_left fun _ => ?_
  omega

lemma jump_again (seq : Nat) (current : Bool) (same : plain blank = plain wp) :
    let stored := (numbers.parseParameters true wp (plain wp) .doJump).item
    let sent := {(formatParameters stored blank .doJump).message with seq := seq,current := current}
    (numbers.parseParameters true sent (plain sent) .doJump).item = stored ↔ ParametersSurvive wp .doJump := by
  intro stored sent
  have plain_sent : plain sent = {plain wp with
      timeInside := (numbers.toInt16.convert wp.param1 : K)
      acceptanceRadius := (((numbers.toUint16.convert wp.param2).toNat : Nat) : K)} := by
    rw [← same]
    rfl
  have index : numbers.toInt16.convert sent.param1 = numbers.toInt16.convert wp.param1 := numbers.toInt16.convert_convert _
  have count : numbers.toUint16.convert sent.param2 = numbers.toUint16.convert wp.param2 := numbers.precision_survives _
  rw [ParametersSurvive,← index_eq_iff numbers,← count_eq_iff numbers]
  simp only [parseParameters,plain_sent,index,count]
  constructor
  · intro equal
    exact ⟨congrArg MissionItem.timeInside equal,congrArg MissionItem.acceptanceRadius equal⟩
  · rintro ⟨index,count⟩
    rw [index,count]
    rfl

lemma parameters_again (seq : Nat) (current : Bool)
    (command : cmd.number = wp.command) (ok : (numbers.parseParameters true wp (plain wp) cmd).result = mavMissionAccepted)
    (same : plain blank = plain wp) (named : blank.command = cmd.stored.number) :
    let stored := (numbers.parseParameters true wp (plain wp) cmd).item
    let sent := {(formatParameters stored blank cmd.stored).message with seq := seq,current := current}
    (numbers.parseParameters true sent (plain sent) cmd.stored).result = mavMissionAccepted ∧
      ((numbers.parseParameters true sent (plain sent) cmd.stored).item = stored ↔ ParametersSurvive wp cmd) := by
  have roi : numbers.parseRoiMode true {blank with seq := seq,current := current} (plain wp) =
      numbers.parseRoiMode true wp (plain wp) := by
    have param1 : blank.param1 = wp.param1 := congrArg MissionItem.timeInside same
    unfold parseRoiMode
    rw [param1]
  have again : plain {blank with seq := seq,current := current} = plain wp := same
  cases cmd with
  | doJump => exact ⟨rfl,numbers.jump_again seq current same⟩
  | navRoi | doSetRoi =>
    simp only [parseParameters,formatParameters,stored,again,roi] at ok ⊢
    exact ⟨ok,iff_of_true trivial trivial⟩
  | _ =>
    first
      | refine ⟨rfl,iff_of_true ?_ trivial⟩
        simp only [parseParameters,formatParameters,stored,again]
        rw [named,← command]
        rfl
      | cases ok

lemma located_sheet (keeps : Keeps item (located wp)) : located (numbers.coordinatesSheet item) = located wp := by
  have x : numbers.toInt32 (item.lat * 1e7) = wp.x := by
    rw [keeps.lat]
    exact numbers.toInt32_degrees wp.x
  have y : numbers.toInt32 (item.lon * 1e7) = wp.y := by
    rw [keeps.lon]
    exact numbers.toInt32_degrees wp.y
  have relative : decide ((if item.altitudeIsRelative then mavFrameGlobalRelativeAltInt else mavFrameGlobalInt) =
      mavFrameGlobalRelativeAlt ∨ (if item.altitudeIsRelative then mavFrameGlobalRelativeAltInt else mavFrameGlobalInt) =
      mavFrameGlobalRelativeAltInt) = (located wp).altitudeIsRelative := by
    rw [← keeps.altitudeIsRelative]
    cases item.altitudeIsRelative <;> rfl
  have altitude : item.altitude = wp.z := keeps.altitude
  unfold located coordinatesSheet
  rw [x,y,relative,altitude]
  rfl

lemma plain_sheet (keeps : Keeps item (plain wp)) (bare : Bare item wp) :
    plain (numbers.parametersSheet item) = plain wp := by
  have x : numbers.toInt32 item.latFloat = wp.x := by
    rw [keeps.latFloat]
    exact numbers.toInt32_toInt wp.x
  have y : numbers.toInt32 item.lonFloat = wp.y := by
    rw [keeps.lonFloat]
    exact numbers.toInt32_toInt wp.y
  have altitude : item.altitude = wp.z := keeps.altitude
  obtain ⟨param1,param2,param3,param4⟩ := bare
  unfold plain parametersSheet
  rw [x,y,altitude,param1,param2,param3,param4]

lemma returns_coordinates (seq : Nat) (current : Bool) (frame : HasCoordinates wp.frame)
    (ok : (numbers.parseMavlinkMissionItem true wp).result = mavMissionAccepted) :
    ∃ cmd,numbers.Returns wp seq current cmd (numbers.CoordinatesSurvive wp cmd) := by
  have parsed := numbers.parse_coordinates frame
  rw [parsed] at ok
  have inner := accepted_accept ok
  obtain ⟨cmd,found,read⟩ := accepted_parseCommand inner
  have command := number_of_ofNumber found
  rw [read] at inner parsed
  have other : wp.frame ≠ mavFrameMission := by
    rcases frame with frame | frame | frame | frame <;> rw [frame] <;> decide
  have altitude : wp.z = (located wp).altitude := rfl
  obtain ⟨keeps,navCmd⟩ := numbers.keeps_parseCoordinates altitude command inner
  have listed : (numbers.coordinatesSheet (stamped wp (numbers.parseCoordinates true wp (located wp) cmd).item)).command =
      cmd.stored.number := navCmd
  obtain ⟨result,survives⟩ := numbers.coordinates_again seq current command inner rfl keeps.altitude listed
  obtain ⟨sheetFrame,sheetName⟩ := numbers.frameName_sheet frame keeps.altitudeIsRelative
  have sheet := numbers.sent_coordinates (numbers.parseCoordinates true wp (located wp) cmd).item
    (numbers.coordinatesSheet (stamped wp (numbers.parseCoordinates true wp (located wp) cmd).item)) cmd.stored seq current
  have named := sheet.command.trans navCmd
  have placed := numbers.located_sheet keeps
  have start := sheet.located.trans placed
  have z := congrArg MissionItem.altitude start
  obtain ⟨kept,-⟩ := numbers.keeps_parseCoordinates z named.symm result
  exact ⟨cmd,numbers.returns_of command parsed inner (keeps.unset (unset_located wp))
    (by rw [← numbers.formatCoordinates_stamped wp]; exact numbers.format_coordinates other navCmd)
    (numbers.formatted_coordinates _ _ other inner)
    (numbers.parse_again_coordinates (by rw [sheet.frame]; exact sheetFrame) start named) result
    (kept.unset (unset_located wp)) ((congrArg frameName sheet.frame).trans sheetName) sheet.autocontinue survives⟩

lemma returns_parameters (seq : Nat) (current : Bool) (frame : wp.frame = mavFrameMission)
    (ok : (numbers.parseMavlinkMissionItem true wp).result = mavMissionAccepted) :
    ∃ cmd,numbers.Returns wp seq current cmd (ParametersSurvive wp cmd) := by
  have parsed := numbers.parse_parameters frame
  rw [parsed] at ok
  have inner := accepted_accept ok
  obtain ⟨cmd,found,read⟩ := accepted_parseCommand inner
  have command := number_of_ofNumber found
  rw [read] at inner parsed
  obtain ⟨keeps,bare,navCmd⟩ := numbers.keeps_parseParameters command inner
  have placed := numbers.plain_sheet keeps bare
  have start : plain (numbers.parametersSheet (stamped wp (numbers.parseParameters true wp (plain wp) cmd).item)) =
      plain wp := placed
  obtain ⟨result,survives⟩ := numbers.parameters_again seq current command inner start navCmd
  have sheet := sent_parameters (numbers.parseParameters true wp (plain wp) cmd).item
    (numbers.parametersSheet (stamped wp (numbers.parseParameters true wp (plain wp) cmd).item)) cmd.stored seq current
  have named := sheet.command.trans navCmd
  obtain ⟨kept,-⟩ := numbers.keeps_parseParameters named.symm result
  exact ⟨cmd,numbers.returns_of command parsed inner (keeps.unset (unset_plain wp))
    (by rw [← formatParameters_stamped wp]; exact numbers.format_parameters frame navCmd)
    (numbers.formatted_parameters _ _ frame inner)
    (numbers.parse_again_parameters (sheet.frame.trans frame) named) result
    (kept.unset (unset_plain _)) (congrArg frameName sheet.frame) sheet.autocontinue survives⟩

/-- Every parameter is one that the stored item and its message can hold. -/
def Survives (wp : MavlinkMissionItem K) : Prop :=
  ∀ cmd : MavCmd,cmd.number = wp.command →
    if wp.frame = mavFrameMission then ParametersSurvive wp cmd else numbers.CoordinatesSurvive wp cmd

/-- Whether the item survives, and whether its formatting reports success, which nobody looks at. -/
theorem reuploaded_item_same_iff (wp : MavlinkMissionItem K) (seq : Nat) (current : Bool)
    (accepted : (numbers.parseMavlinkMissionItem true wp).result = mavMissionAccepted) :
    let stored := (numbers.parseMavlinkMissionItem true wp).item
    let again := numbers.parseMavlinkMissionItem true (numbers.sentItem true seq current stored)
    (again.result = mavMissionAccepted ∧ SameItem again.item stored ↔ numbers.Survives wp) ∧
      ((numbers.formatMavlinkMissionItem true stored .zero).ok = true ↔
        ∀ cmd : MavCmd,cmd.number = wp.command → cmd ∉ unformatted wp.frame) := by
  have named (cmd : MavCmd) (command : cmd.number = wp.command) (property : MavCmd → Prop) :
      property cmd ↔ ∀ cmd : MavCmd,cmd.number = wp.command → property cmd := by
    refine ⟨fun holds other same => ?_,fun all => all cmd command⟩
    rwa [MavCmd.number_injective (same.trans command.symm)]
  rcases numbers.frame_of_accepted accepted with frame | frame
  · have other : wp.frame ≠ mavFrameMission := by
      rcases frame with frame | frame | frame | frame <;> rw [frame] <;> decide
    obtain ⟨cmd,command,again,formatted⟩ := numbers.returns_coordinates seq current frame accepted
    refine ⟨again.trans ?_,formatted.trans (named cmd command fun cmd => cmd ∉ unformatted wp.frame)⟩
    simp only [Survives,if_neg other]
    exact named cmd command _
  · obtain ⟨cmd,command,again,formatted⟩ := numbers.returns_parameters seq current frame accepted
    refine ⟨again.trans ?_,formatted.trans (named cmd command fun cmd => cmd ∉ unformatted wp.frame)⟩
    simp only [Survives,if_pos frame]
    exact named cmd command _

noncomputable def real : MissionNumbers ℝ where
  toInt := .saturating (by decide)
  toInt16 := .saturating (by decide)
  toUint16 := .saturating (by decide)
  ofFloat _ := 0
  toFloat _ := 0
  pi := Real.pi
  pi_pos := Real.pi_pos

def waypointEast : MavlinkMissionItem ℝ :=
  ⟨0,mavMissionTypeMission,mavFrameGlobalInt,MavCmd.navWaypoint.number,false,true,0,5,0,90,473977420,85455940,500⟩

theorem reuploaded_waypoint_same : (real.parseMavlinkMissionItem true waypointEast).result = mavMissionAccepted ∧
    let stored := (real.parseMavlinkMissionItem true waypointEast).item
    let again := real.parseMavlinkMissionItem true (real.sentItem true 0 true stored)
    (again.result = mavMissionAccepted ∧ SameItem again.item stored ↔ real.Survives waypointEast) ∧
      ((real.formatMavlinkMissionItem true stored .zero).ok = true ↔
        ∀ cmd : MavCmd,cmd.number = waypointEast.command → cmd ∉ unformatted waypointEast.frame) :=
  ⟨rfl,real.reuploaded_item_same_iff waypointEast 0 true rfl⟩

def loiterEast : MavlinkMissionItem ℝ := {waypointEast with command := MavCmd.navLoiterTime.number}

noncomputable def lookAt : MavlinkMissionItem ℝ :=
  {waypointEast with command := MavCmd.doSetRoi.number,param1 := (mavRoiLocation : ℝ)}

lemma lookAt_location : real.toInt.convert lookAt.param1 = mavRoiLocation :=
  real.toInt.convert_intCast (by decide) (by decide)

lemma lost_coordinates (cmd : MavCmd) (seq : Nat) (current : Bool) (frame : HasCoordinates wp.frame)
    (ok : (numbers.parseMavlinkMissionItem true wp).result = mavMissionAccepted) (command : cmd.number = wp.command)
    (lost : ¬numbers.CoordinatesSurvive wp cmd) :
    let stored := (numbers.parseMavlinkMissionItem true wp).item
    let again := numbers.parseMavlinkMissionItem true (numbers.sentItem true seq current stored)
    ¬(again.result = mavMissionAccepted ∧ SameItem again.item stored) := by
  intro stored again
  obtain ⟨other,returns⟩ := numbers.returns_coordinates seq current frame ok
  rw [returns.again,number_injective (returns.command.trans command.symm)]
  exact lost

/-- The heading of a timed loiter and the location of a region of interest are lost. -/
theorem reuploaded_loiter_turned : ((real.parseMavlinkMissionItem true loiterEast).result = mavMissionAccepted ∧
      let stored := (real.parseMavlinkMissionItem true loiterEast).item
      let again := real.parseMavlinkMissionItem true (real.sentItem true 0 true stored)
      ¬ (again.result = mavMissionAccepted ∧ SameItem again.item stored)) ∧
    (real.parseMavlinkMissionItem true lookAt).result = mavMissionAccepted ∧
      let stored := (real.parseMavlinkMissionItem true lookAt).item
      let again := real.parseMavlinkMissionItem true (real.sentItem true 0 true stored)
      ¬ (again.result = mavMissionAccepted ∧ SameItem again.item stored) := by
  have located : (real.parseMavlinkMissionItem true lookAt).result = mavMissionAccepted := by
    have roi : real.parseRoi true lookAt (located lookAt) = ⟨mavMissionAccepted,true,{(located lookAt) with
        navCmd := MavCmd.doSetRoi.number,timeInside := (mavRoiLocation : ℝ),altitude := lookAt.z}⟩ :=
      if_pos lookAt_location
    have named : lookAt.command = MavCmd.doSetRoi.number := rfl
    rw [real.parse_again_coordinates (.inr (.inr (.inl rfl))) rfl named]
    change (accept lookAt (real.parseRoi true lookAt (MissionNumbers.located lookAt))).result = _
    rw [roi]
    rfl
  refine ⟨⟨rfl,?_⟩,located,?_⟩
  · refine real.lost_coordinates .navLoiterTime 0 true (.inr (.inr (.inl rfl))) rfl rfl ?_
    rintro ⟨turns,same⟩
    have heading : (90 : ℝ) = (if (0 : ℝ) < 90 then 1 else 0) + 360 * turns := same
    rw [if_pos (by norm_num)] at heading
    have whole : (90 : Int) = 1 + 360 * turns := by exact_mod_cast heading
    omega
  · exact real.lost_coordinates .doSetRoi 0 true (.inr (.inr (.inl rfl))) located rfl (not_not_intro lookAt_location)

end MissionNumbers
end AerialManipulator
