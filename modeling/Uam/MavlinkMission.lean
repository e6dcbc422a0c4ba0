import Uam.Dataman

/-! The mission protocol, after `mavlink_mission.cpp`. Each link has a manager; all share the static
members and the storage. A handler leaves new ones, and what it did towards the outside. -/
namespace AerialManipulator
open Function

def mavMissionTypeMission : Nat := 0
def mavMissionTypeFence : Nat := 1
def mavMissionTypeRally : Nat := 2
def mavMissionTypeAll : Nat := 255

def mavMissionAccepted : Nat := 0
def mavMissionError : Nat := 1
def mavMissionUnsupported : Nat := 3
def mavMissionNoSpace : Nat := 4
def mavMissionOperationCancelled : Nat := 15

def mavCmdNavFencePolygonVertexInclusion : Nat := 5001
def mavCmdNavFencePolygonVertexExclusion : Nat := 5002
def mavCmdNavFenceCircleInclusion : Nat := 5003
def mavCmdNavFenceCircleExclusion : Nat := 5004
def mavCmdNavRallyPoint : Nat := 5100

def mavCompIdAll : Nat := 0
def mavCompIdMissionplanner : Nat := 190

def mavlinkMissionProtocolTimeoutDefault : Nat := 5000000
def mavlinkMissionRetryTimeoutDefault : Nat := 250000
def slowRateInterval : Nat := 100 * 1000

def filesystemErrcountNotifyLimit : Nat := 2

def hrtElapsedTime (now then_ : Nat) : Nat := (now + 2^64 - then_) % 2^64

inductive WpmState
  | idle
  | sendlist
  | getlist
  deriving DecidableEq

/-- `mission_item_s`. `timeInside` to `altitude` are also `params[0]` to
`params[6]`, `timeInside` is also the circle radius, and `vertexCount` the current
count of a jump and the landing precision. -/
structure MissionItem (K D : Type) where
  lat : D
  lon : D
  timeInside : K
  acceptanceRadius : K
  loiterRadius : K
  yaw : K
  latFloat : K
  lonFloat : K
  altitude : K
  navCmd : Nat
  doJumpMissionIndex : Int
  doJumpRepeatCount : Nat
  vertexCount : Nat
  frame : Nat
  origin : Nat
  loiterExitXtrack : Bool
  forceHeading : Bool
  altitudeIsRelative : Bool
  autocontinue : Bool

def MissionItem.zero {K D : Type} [Zero K] [Zero D] : MissionItem K D :=
  ⟨0,0,0,0,0,0,0,0,0,0,0,0,0,0,0,false,false,false,false⟩

inductive FenceExtent (K : Type)
  | vertexCount (count : Nat)
  | circleRadius (radius : K)

structure MissionFencePoint (K D : Type) where
  lat : D
  lon : D
  alt : K
  extent : FenceExtent K
  navCmd : Nat
  frame : Nat

structure MissionSafePoint (K D : Type) where
  lat : D
  lon : D
  alt : K
  frame : Nat

def isPolygonVertex (navCmd : Nat) : Bool :=
  navCmd = mavCmdNavFencePolygonVertexInclusion || navCmd = mavCmdNavFencePolygonVertexExclusion

def MissionFencePoint.ofItem {K D : Type} (item : MissionItem K D) : MissionFencePoint K D where
  lat := item.lat
  lon := item.lon
  alt := item.altitude
  extent := if isPolygonVertex item.navCmd then .vertexCount item.vertexCount else .circleRadius item.timeInside
  navCmd := item.navCmd
  frame := item.frame

def MissionSafePoint.ofItem {K D : Type} (item : MissionItem K D) : MissionSafePoint K D where
  lat := item.lat
  lon := item.lon
  alt := item.altitude
  frame := item.frame

def MissionItem.ofFencePoint {K D : Type} [Zero K] [Zero D] (point : MissionFencePoint K D) : MissionItem K D :=
  let item : MissionItem K D := { (MissionItem.zero : MissionItem K D) with
    navCmd := point.navCmd, frame := point.frame, lat := point.lat, lon := point.lon, altitude := point.alt }
  match point.extent with
  | .vertexCount count => {item with vertexCount := count}
  | .circleRadius radius => {item with timeInside := radius}

def MissionItem.ofSafePoint {K D : Type} [Zero K] [Zero D] (point : MissionSafePoint K D) : MissionItem K D :=
  { (MissionItem.zero : MissionItem K D) with
    navCmd := mavCmdNavRallyPoint, frame := point.frame, lat := point.lat, lon := point.lon, altitude := point.alt }

structure MissionStatsEntry where
  numItems : Nat
  updateCounter : Nat

structure MissionState where
  timestamp : Nat
  datamanId : Nat
  count : Nat
  currentSeq : Int

structure MissionStore (K D : Type) where
  waypoint : Nat → Nat → Option (MissionItem K D)
  fencePoint : Nat → Option (MissionFencePoint K D)
  safePoint : Nat → Option (MissionSafePoint K D)
  /-- The first entry of the fence and of the safe points, by mission type. -/
  stats : Nat → Option MissionStatsEntry
  missionState : Option MissionState

structure MissionStatics where
  datamanId : Nat
  count : Nat → Nat
  currentSeq : Int
  transferInProgress : Bool
  updateCounter : Nat → Nat

structure MissionManager where
  state : WpmState
  missionType : Nat
  timeLastRecv : Nat
  timeLastSent : Nat
  reachedSentCount : Nat
  intMode : Bool
  filesystemErrcount : Nat
  myDatamanId : Nat
  lastReached : Int
  transferDatamanId : Nat
  transferCount : Nat
  transferSeq : Nat
  transferCurrentSeq : Int
  transferPartnerSysid : Nat
  transferPartnerCompid : Nat
  geofenceLocked : Bool
  slowLastSent : Nat

/-- `mavlink_mission_item_t` and `mavlink_mission_item_int_t`, with `x` and `y` as words. -/
structure MavlinkMissionItem (K : Type) where
  seq : Nat
  missionType : Nat
  frame : Nat
  command : Nat
  current : Bool
  autocontinue : Bool
  param1 : K
  param2 : K
  param3 : K
  param4 : K
  x : BitVec 32
  y : BitVec 32
  z : K

structure MissionHeader where
  sysid : Nat
  compid : Nat
  targetSystem : Nat
  targetComponent : Nat

inductive MissionMessage (K : Type)
  | missionAck (type missionType : Nat)
  | missionSetCurrent (seq : Nat)
  | missionRequestList (missionType : Nat)
  | missionRequest (seq missionType : Nat)
  | missionRequestInt (seq missionType : Nat)
  | missionCount (count missionType : Nat)
  | missionItem (item : MavlinkMissionItem K)
  | missionItemInt (item : MavlinkMissionItem K)
  | missionClearAll (missionType : Nat)

inductive MissionAction (K D : Type)
  | ack (sysid compid type missionType : Nat)
  | current (seq : Nat)
  | count (sysid compid count missionType : Nat)
  | item (sysid compid seq : Nat) (current intMode : Bool) (item : MissionItem K D)
  | request (sysid compid seq missionType : Nat) (intMode : Bool)
  | reached (seq : Nat)
  | critical (text : String)
  | info (text : String)
  | publish (mission : MissionState)
  | lockFence
  | unlockFence

structure MissionResult where
  seqReached : Int
  seqCurrent : Nat
  seqTotal : Nat
  itemDoJumpChanged : Bool
  itemChangedIndex : Nat

/-- What a handler learns: the time, the mode of the link, a new mission result, and which
data manager accesses succeed. -/
structure MissionSurroundings where
  now : Nat
  iridium : Bool
  missionResult : Option MissionResult
  itemRead : Bool
  fenceStatsRead : Bool
  safeStatsRead : Bool
  itemWritten : Bool
  missionStateWritten : Bool
  fenceStatsWritten : Bool
  safeStatsWritten : Bool
  fenceLocked : Bool

structure MissionParse (K D : Type) where
  result : Nat
  intMode : Bool
  item : MissionItem K D

/-- The build's tables, the own address, and `parse_mavlink_mission_item`, which depends on the
integer mode and may set it. -/
structure MissionSetup (K D : Type) where
  layout : DatamanLayout
  sysid : Nat
  compid : Nat
  parseMavlinkMissionItem : Bool → MavlinkMissionItem K → MissionParse K D

structure MissionHandling (K D : Type) where
  manager : MissionManager
  statics : MissionStatics
  store : MissionStore K D
  actions : List (MissionAction K D)

namespace MissionHandling
variable {K D : Type} (setup : MissionSetup K D) (env : MissionSurroundings) (h : MissionHandling K D)

def act (action : MissionAction K D) : MissionHandling K D := {h with actions := h.actions ++ [action]}

def received : MissionHandling K D := {h with manager := {h.manager with timeLastRecv := env.now}}

def setTransferInProgress (inProgress : Bool) : MissionHandling K D :=
  {h with statics := {h.statics with transferInProgress := inProgress}}

def currentMaxItemCount : Nat :=
  if h.manager.missionType ≥ 3 then 0
  else if h.manager.missionType = mavMissionTypeMission then setup.layout.maxIndex dmKeyWaypointsOffboard0
  else if h.manager.missionType = mavMissionTypeFence then setup.layout.maxIndex dmKeyFencePoints-1
  else setup.layout.maxIndex dmKeySafePoints-1

def currentItemCount : Nat :=
  if h.manager.missionType ≥ 3 then 0 else h.statics.count h.manager.missionType

def loadGeofenceStats : MissionHandling K D :=
  if env.fenceStatsRead then
    (h.store.stats mavMissionTypeFence).elim h fun stats =>
      { h with statics := { h.statics with
          count := update h.statics.count mavMissionTypeFence stats.numItems
          updateCounter := update h.statics.updateCounter mavMissionTypeFence stats.updateCounter } }
  else h

def loadSafepointStats : MissionHandling K D :=
  if env.safeStatsRead then
    (h.store.stats mavMissionTypeRally).elim h fun stats =>
      { h with statics := { h.statics with
          count := update h.statics.count mavMissionTypeRally stats.numItems } }
  else h

def storageError (text : String) : MissionHandling K D :=
  let counted : MissionHandling K D :=
    {h with manager := {h.manager with filesystemErrcount := h.manager.filesystemErrcount+1}}
  if h.manager.filesystemErrcount < filesystemErrcountNotifyLimit then counted.act (.critical text) else counted

def updateActiveMission (datamanId count : Nat) (seq : Int) : MissionHandling K D :=
  if env.missionStateWritten then
    { h with
      store := {h.store with missionState := some ⟨env.now,datamanId,count,seq⟩}
      statics := { h.statics with
        datamanId := datamanId
        count := update h.statics.count mavMissionTypeMission count
        currentSeq := seq }
      manager := {h.manager with myDatamanId := datamanId}
      actions := h.actions ++ [.publish ⟨env.now,datamanId,count,seq⟩] }
  else h.storageError "Mission storage: Unable to write to microSD\t"

def updateStatsCount (missionType : Nat) (written : Bool) (count : Nat) : MissionHandling K D :=
  let counter := (h.statics.updateCounter missionType + 1) % 2^16
  let counted : MissionHandling K D :=
    {h with statics := {h.statics with updateCounter := update h.statics.updateCounter missionType counter}}
  if written then
    { counted with
      store := {h.store with stats := update h.store.stats missionType (some ⟨count,counter⟩)}
      statics := { counted.statics with count := update h.statics.count missionType count } }
  else counted.storageError "Mission storage: Unable to write to microSD\t"

def updateGeofenceCount (count : Nat) : MissionHandling K D :=
  h.updateStatsCount mavMissionTypeFence env.fenceStatsWritten count

def updateSafepointCount (count : Nat) : MissionHandling K D :=
  h.updateStatsCount mavMissionTypeRally env.safeStatsWritten count

def otherDatamanId : Nat :=
  if h.statics.datamanId = dmKeyWaypointsOffboard0 then dmKeyWaypointsOffboard1 else dmKeyWaypointsOffboard0

def sendMissionAck (type : Nat) : MissionHandling K D :=
  h.act (.ack h.manager.transferPartnerSysid h.manager.transferPartnerCompid type h.manager.missionType)

def sendMissionCurrent (seq : Int) : MissionHandling K D := h.act (.current (seq % 2^16).toNat)

def sendMissionCount (sysid compid count missionType : Nat) : MissionHandling K D :=
  {h with manager := {h.manager with timeLastSent := env.now}}.act (.count sysid compid count missionType)

def sendMissionItemReached (seq : Int) : MissionHandling K D := h.act (.reached (seq % 2^16).toNat)

def storedItem [Zero K] [Zero D] (seq : Nat) : Option (MissionItem K D) :=
  if h.manager.missionType = mavMissionTypeMission then h.store.waypoint h.statics.datamanId seq
  else if h.manager.missionType = mavMissionTypeFence then (h.store.fencePoint (seq+1)).map MissionItem.ofFencePoint
  else if h.manager.missionType = mavMissionTypeRally then (h.store.safePoint (seq+1)).map MissionItem.ofSafePoint
  else none

def sendMissionItem [Zero K] [Zero D] (sysid compid seq : Nat) : MissionHandling K D :=
  let asked := if h.manager.missionType = mavMissionTypeMission ∨ h.manager.missionType = mavMissionTypeFence ∨
    h.manager.missionType = mavMissionTypeRally then h else h.act (.critical "Received unknown mission type, abort.\t")
  (if env.itemRead then h.storedItem seq else none).elim
    ((asked.sendMissionAck mavMissionError).storageError "Mission storage: Unable to read from microSD\t")
    fun item => {asked with manager := {asked.manager with timeLastSent := env.now}}.act
      (.item sysid compid seq (h.statics.currentSeq = seq) h.manager.intMode item)

def sendMissionRequest : MissionHandling K D :=
  if h.manager.transferSeq < h.currentMaxItemCount setup then
    {h with manager := {h.manager with timeLastSent := env.now}}.act
      (.request h.manager.transferPartnerSysid h.manager.transferPartnerCompid h.manager.transferSeq
        h.manager.missionType h.manager.intMode)
  else h.act (.critical "ERROR: Waypoint index exceeds list capacity\t")

def switchToIdleState : MissionHandling K D :=
  let released : MissionHandling K D :=
    if h.manager.geofenceLocked then
      {h with manager := {h.manager with geofenceLocked := false}}.act .unlockFence
    else h
  {released with manager := {released.manager with state := .idle}}

def handleMissionAck (header : MissionHeader) (type missionType : Nat) : MissionHandling K D :=
  if header.sysid = h.manager.transferPartnerSysid ∧ header.compid = h.manager.transferPartnerCompid then
    if h.manager.state = .sendlist ∧ h.manager.missionType = missionType then (h.received env).switchToIdleState
    else if h.manager.state = .getlist then
      if type = mavMissionUnsupported then
        {h with manager := {h.manager with intMode := !h.manager.intMode}}.sendMissionRequest setup env
      else if type = mavMissionOperationCancelled then h.switchToIdleState.setTransferInProgress false
      else h
    else h
  else h.act (.critical "REJ. WP CMD: partner id mismatch\t")

def handleMissionSetCurrent (seq : Nat) : MissionHandling K D :=
  if h.manager.state = .idle then
    if seq < h.statics.count mavMissionTypeMission then
      let updated := (h.received env).updateActiveMission env h.statics.datamanId (h.statics.count mavMissionTypeMission) seq
      if env.missionStateWritten then updated else updated.act (.critical "WPM: WP CURR CMD: Error setting ID\t")
    else (h.received env).act (.critical "WPM: WP CURR CMD: Not in list\t")
  else h.act (.critical "WPM: IGN WP CURR CMD: Busy\t")

def maybeCompleted : Bool := h.manager.transferSeq = h.currentItemCount

def loadStats (missionType : Nat) : MissionHandling K D :=
  if missionType = mavMissionTypeFence then h.loadGeofenceStats env
  else if missionType = mavMissionTypeRally then h.loadSafepointStats env
  else h

def startDownload (header : MissionHeader) (missionType : Nat) : MissionHandling K D :=
  let loaded := { h with manager := { h.manager with
      timeLastRecv := env.now, state := .sendlist, missionType := missionType } }.loadStats env missionType
  { loaded with manager := { loaded.manager with
      transferSeq := 0
      transferCount := loaded.currentItemCount
      transferPartnerSysid := header.sysid
      transferPartnerCompid := header.compid } }.sendMissionCount env header.sysid header.compid
        loaded.currentItemCount missionType

def handleMissionRequestList (header : MissionHeader) (missionType : Nat) : MissionHandling K D :=
  let freed := if h.maybeCompleted then h.switchToIdleState else h
  if freed.manager.state = .idle ∨ freed.manager.state = .sendlist ∧ freed.manager.missionType = missionType then
    freed.startDownload env header missionType
  else freed.act (.info "Mission download request ignored, already active\t")

def refuseRequest : MissionHandling K D :=
  (h.switchToIdleState.sendMissionAck mavMissionError).act (.critical "WPM: REJ. CMD: Req. WP was unexpected\t")

def answerRequest [Zero K] [Zero D] (seq : Nat) : MissionHandling K D :=
  if seq < h.currentItemCount then
    h.sendMissionItem env h.manager.transferPartnerSysid h.manager.transferPartnerCompid seq
  else h.refuseRequest

def handleMissionRequestBoth [Zero K] [Zero D] (header : MissionHeader) (seq missionType : Nat) : MissionHandling K D :=
  if header.sysid = h.manager.transferPartnerSysid ∧ header.compid = h.manager.transferPartnerCompid then
    if h.manager.state = .sendlist then
      if h.manager.missionType ≠ missionType then h
      else if seq = h.manager.transferSeq ∧ h.manager.transferSeq < h.manager.transferCount then
        { h.received env with manager := { (h.received env).manager with
            transferSeq := h.manager.transferSeq+1 } }.answerRequest env seq
      else if seq+1 = h.manager.transferSeq then (h.received env).answerRequest env seq
      else (h.received env).refuseRequest
    else if h.manager.state = .idle then h
    else h.act (.critical "WPM: REJ. CMD: Busy\t")
  else h.act (.critical "WPM: REJ. CMD: partner id mismatch\t")

def clearCount : MissionHandling K D :=
  if h.manager.missionType = mavMissionTypeMission then h.updateActiveMission env h.otherDatamanId 0 0
  else if h.manager.missionType = mavMissionTypeFence then h.updateGeofenceCount env 0
  else if h.manager.missionType = mavMissionTypeRally then h.updateSafepointCount env 0
  else h

def startUpload (header : MissionHeader) (count : Nat) : MissionHandling K D :=
  let started : MissionHandling K D := { h with manager := { h.manager with
      state := .getlist
      transferSeq := 0
      transferPartnerSysid := header.sysid
      transferPartnerCompid := header.compid
      transferCount := count
      transferDatamanId := h.otherDatamanId
      transferCurrentSeq := -1 } }
  if h.manager.missionType = mavMissionTypeFence then
    if env.fenceLocked then
      {started with manager := {started.manager with geofenceLocked := true}}.act .lockFence
    else started
  else started

def handleMissionCount (header : MissionHeader) (count missionType : Nat) : MissionHandling K D :=
  if h.manager.state = .idle then
    if h.statics.transferInProgress then (h.received env).sendMissionAck mavMissionError
    else
      let claimed : MissionHandling K D :=
        { (h.received env).setTransferInProgress true with
          manager := { (h.received env).manager with missionType := missionType } }
      if count > claimed.currentMaxItemCount setup then
        (claimed.sendMissionAck mavMissionNoSpace).setTransferInProgress false
      else if count = 0 then
        ((claimed.clearCount env).sendMissionAck mavMissionAccepted).setTransferInProgress false
      else (claimed.startUpload env header count).sendMissionRequest setup env
  else if h.manager.state = .getlist then
    if h.manager.transferSeq = 0 then (h.received env).sendMissionRequest setup env
    else ((h.received env).act (.critical "WPM: REJ. CMD: Busy\t")).sendMissionAck mavMissionError
  else (h.act (.critical "WPM: IGN MISSION_COUNT: Busy\t")).sendMissionAck mavMissionError

structure Stored (K D : Type) where
  handling : MissionHandling K D
  writeFailed : Bool
  checkFailed : Bool

def storeWaypoint (wp : MavlinkMissionItem K) (item : MissionItem K D) : Stored K D :=
  if isPolygonVertex item.navCmd || item.navCmd = mavCmdNavFenceCircleInclusion ||
      item.navCmd = mavCmdNavFenceCircleExclusion || item.navCmd = mavCmdNavRallyPoint then ⟨h,false,true⟩
  else if env.itemWritten then
    let stored := update (h.store.waypoint h.manager.transferDatamanId) wp.seq (some item)
    ⟨{ h with
        store := {h.store with waypoint := update h.store.waypoint h.manager.transferDatamanId stored}
        manager := { h.manager with
          transferCurrentSeq := if wp.current then (wp.seq : Int) else h.manager.transferCurrentSeq } },false,false⟩
  else ⟨h,true,false⟩

def storeFencePoint (wp : MavlinkMissionItem K) (item : MissionItem K D) : Stored K D :=
  if isPolygonVertex item.navCmd && item.vertexCount < 3 then ⟨h.updateGeofenceCount env 0,false,true⟩
  else if env.itemWritten then
    let fencePoint := update h.store.fencePoint (wp.seq+1) (some (.ofItem item))
    ⟨{h with store := {h.store with fencePoint := fencePoint}},false,false⟩
  else ⟨h,true,false⟩

def storeSafePoint (wp : MavlinkMissionItem K) (item : MissionItem K D) : Stored K D :=
  if env.itemWritten then
    let safePoint := update h.store.safePoint (wp.seq+1) (some (.ofItem item))
    ⟨{h with store := {h.store with safePoint := safePoint}},false,false⟩
  else ⟨h,true,false⟩

def storeItem (wp : MavlinkMissionItem K) (item : MissionItem K D) : Stored K D :=
  if h.manager.missionType = mavMissionTypeMission then h.storeWaypoint env wp item
  else if h.manager.missionType = mavMissionTypeFence then h.storeFencePoint env wp item
  else if h.manager.missionType = mavMissionTypeRally then h.storeSafePoint env wp item
  else ⟨h.act (.critical "Received unknown mission type, abort.\t"),false,false⟩

def activated : Bool :=
  if h.manager.missionType = mavMissionTypeMission then env.missionStateWritten
  else if h.manager.missionType = mavMissionTypeFence then env.fenceStatsWritten
  else if h.manager.missionType = mavMissionTypeRally then env.safeStatsWritten
  else true

def activate : MissionHandling K D :=
  if h.manager.missionType = mavMissionTypeMission then
    h.updateActiveMission env h.manager.transferDatamanId h.manager.transferCount h.manager.transferCurrentSeq
  else if h.manager.missionType = mavMissionTypeFence then h.updateGeofenceCount env h.manager.transferCount
  else if h.manager.missionType = mavMissionTypeRally then h.updateSafepointCount env h.manager.transferCount
  else h

def abortUpload (type : Nat) : MissionHandling K D :=
  (h.sendMissionAck type).switchToIdleState.setTransferInProgress false

def finishUpload : MissionHandling K D :=
  ((h.activate env).switchToIdleState.sendMissionAck
    (if h.activated env then mavMissionAccepted else mavMissionError)).setTransferInProgress false

def takeItem (wp : MavlinkMissionItem K) (item : MissionItem K D) : MissionHandling K D :=
  let stored := h.storeItem env wp item
  if stored.writeFailed || stored.checkFailed then
    ((if stored.writeFailed then
        (stored.handling.sendMissionAck mavMissionError).act (.critical "Unable to write on micro SD\t")
      else stored.handling.sendMissionAck mavMissionError).switchToIdleState).setTransferInProgress false
  else
    let taken : MissionHandling K D := { stored.handling with manager := { stored.handling.manager with
      transferCurrentSeq := if wp.current then (wp.seq : Int) else stored.handling.manager.transferCurrentSeq
      transferSeq := (wp.seq + 1) % 2^16 } }
    if taken.manager.transferSeq = taken.manager.transferCount then taken.finishUpload env
    else taken.sendMissionRequest setup env

def handleMissionItemBoth (wp : MavlinkMissionItem K) : MissionHandling K D :=
  if wp.missionType ≠ h.manager.missionType then h.sendMissionAck mavMissionError
  else if h.manager.state = .getlist then
    if wp.seq ≠ h.manager.transferSeq then h.received env
    else
      let parsed := setup.parseMavlinkMissionItem h.manager.intMode wp
      let switched : MissionHandling K D :=
        {h.received env with manager := {(h.received env).manager with intMode := parsed.intMode}}
      if parsed.result ≠ mavMissionAccepted then
        (switched.act (.critical "IGN MISSION_ITEM: Invalid item\t")).abortUpload parsed.result
      else switched.takeItem setup env wp parsed.item
  else if h.manager.state = .idle then
    -- The last acknowledgement may have been lost.
    if h.manager.transferSeq = wp.seq+1 then h.sendMissionAck mavMissionAccepted
    else (h.act (.critical "IGN MISSION_ITEM: No transfer\t")).sendMissionAck mavMissionError
  else (h.act (.critical "IGN MISSION_ITEM: Busy\t")).sendMissionAck mavMissionError

def cleared (missionType : Nat) : Bool :=
  if missionType = mavMissionTypeMission then env.missionStateWritten
  else if missionType = mavMissionTypeFence then env.fenceStatsWritten
  else if missionType = mavMissionTypeRally then env.safeStatsWritten
  else if missionType = mavMissionTypeAll then
    env.missionStateWritten && env.fenceStatsWritten && env.safeStatsWritten
  else true

def clearAll (missionType : Nat) : MissionHandling K D :=
  if missionType = mavMissionTypeMission then h.updateActiveMission env h.otherDatamanId 0 0
  else if missionType = mavMissionTypeFence then h.updateGeofenceCount env 0
  else if missionType = mavMissionTypeRally then h.updateSafepointCount env 0
  else if missionType = mavMissionTypeAll then
    ((h.updateActiveMission env h.otherDatamanId 0 0).updateGeofenceCount env 0).updateSafepointCount env 0
  else h

def handleMissionClearAll (missionType : Nat) : MissionHandling K D :=
  if h.manager.state = .idle then
    ({ h.received env with manager := { (h.received env).manager with
        missionType := missionType } }.clearAll env missionType).sendMissionAck
      (if cleared env missionType then mavMissionAccepted else mavMissionError)
  else h.act (.critical "WPM: IGN CLEAR CMD: Busy\t")

/-- `CHECK_SYSID_COMPID_MISSION`. -/
def addressed (header : MissionHeader) : Bool :=
  header.targetSystem = setup.sysid && (header.targetComponent = setup.compid ||
    header.targetComponent = mavCompIdMissionplanner || header.targetComponent = mavCompIdAll)

/-- Requests and items also choose the integer mode, before the address is looked at. -/
def handleMessage [Zero K] [Zero D] (header : MissionHeader) : MissionMessage K → MissionHandling K D
  | .missionAck type missionType =>
    if addressed setup header then h.handleMissionAck setup env header type missionType else h
  | .missionSetCurrent seq => if addressed setup header then h.handleMissionSetCurrent env seq else h
  | .missionRequestList missionType =>
    if addressed setup header then h.handleMissionRequestList env header missionType else h
  | .missionRequest seq missionType =>
    let switched : MissionHandling K D := {h with manager := {h.manager with intMode := false}}
    if addressed setup header then switched.handleMissionRequestBoth env header seq missionType else switched
  | .missionRequestInt seq missionType =>
    let switched : MissionHandling K D := {h with manager := {h.manager with intMode := true}}
    if addressed setup header then switched.handleMissionRequestBoth env header seq missionType else switched
  | .missionCount count missionType =>
    if addressed setup header then h.handleMissionCount setup env header count missionType else h
  | .missionItem item =>
    let switched : MissionHandling K D := {h with manager := {h.manager with intMode := false}}
    if addressed setup header then switched.handleMissionItemBoth setup env item else switched
  | .missionItemInt item =>
    let switched : MissionHandling K D := {h with manager := {h.manager with intMode := true}}
    if addressed setup header then switched.handleMissionItemBoth setup env item else switched
  | .missionClearAll missionType =>
    if addressed setup header then h.handleMissionClearAll env missionType else h

def newCurrentSeq (result : MissionResult) : MissionHandling K D :=
  if h.statics.currentSeq ≠ result.seqCurrent then
    let moved : MissionHandling K D := {h with statics := {h.statics with currentSeq := result.seqCurrent}}
    if result.seqTotal > 0 then
      if result.seqCurrent < result.seqTotal then moved.sendMissionCurrent result.seqCurrent
      else moved.act (.critical "ERROR: wp index out of bounds\t")
    else moved
  else h

def newReached (result : MissionResult) : MissionHandling K D :=
  if h.manager.lastReached ≠ result.seqReached then
    let moved : MissionHandling K D :=
      {h with manager := {h.manager with lastReached := result.seqReached, reachedSentCount := 0}}
    if result.seqTotal > 0 ∧ result.seqReached ≥ 0 then moved.sendMissionItemReached result.seqReached else moved
  else h

def resendJump [Zero K] [Zero D] (result : MissionResult) : MissionHandling K D :=
  if result.itemDoJumpChanged ∧ result.seqTotal > 0 ∧ result.itemChangedIndex < result.seqTotal ∧
      h.manager.state = .idle then
    {h with manager := {h.manager with missionType := mavMissionTypeMission}}.sendMissionItem env
      h.manager.transferPartnerSysid h.manager.transferPartnerCompid result.itemChangedIndex
  else h

def sendSlowly : MissionHandling K D :=
  if slowRateInterval ≤ hrtElapsedTime env.now h.manager.slowLastSent then
    let passed : MissionHandling K D := {h with manager := {h.manager with slowLastSent := env.now}}
    if h.statics.count mavMissionTypeMission > 0 ∧ h.statics.currentSeq ≥ 0 then
      let told := passed.sendMissionCurrent h.statics.currentSeq
      if h.manager.lastReached ≥ 0 ∧ h.manager.reachedSentCount < 10 then
        let reached := told.sendMissionItemReached h.manager.lastReached
        {reached with manager := {reached.manager with reachedSentCount := h.manager.reachedSentCount+1}}
      else told
    else passed
  else h

def retryDue : Bool :=
  h.manager.state = .getlist && h.manager.timeLastSent > 0 &&
    hrtElapsedTime env.now h.manager.timeLastSent > mavlinkMissionRetryTimeoutDefault

def timedOut : Bool :=
  h.manager.state ≠ .idle && h.manager.timeLastRecv > 0 &&
    hrtElapsedTime env.now h.manager.timeLastRecv > mavlinkMissionProtocolTimeoutDefault

def checkTimeouts : MissionHandling K D :=
  if h.retryDue env then h.sendMissionRequest setup env
  else if h.timedOut env then
    (h.act (.critical "Operation timeout\t")).switchToIdleState.setTransferInProgress false
  else if h.manager.state = .idle then
    {h with manager := {h.manager with timeLastSent := 0, timeLastRecv := 0}}
  else h

def tellProgress [Zero K] [Zero D] : MissionHandling K D :=
  env.missionResult.elim (h.sendSlowly env) fun result =>
    ((h.newCurrentSeq result).newReached result).resendJump env result

def send [Zero K] [Zero D] : MissionHandling K D :=
  if env.iridium then h else (h.tellProgress env).checkTimeouts setup env

def checkActiveMission : MissionHandling K D :=
  if env.iridium then h
  else if h.manager.myDatamanId = h.statics.datamanId then h
  else
    {h with manager := {h.manager with myDatamanId := h.statics.datamanId}}.sendMissionCount env
      h.manager.transferPartnerSysid h.manager.transferPartnerCompid (h.statics.count mavMissionTypeMission)
      mavMissionTypeMission

end MissionHandling

inductive MissionEvent (κ K : Type)
  | message (manager : κ) (header : MissionHeader) (message : MissionMessage K) (env : MissionSurroundings)
  | send (manager : κ) (env : MissionSurroundings)
  | checkActiveMission (manager : κ) (env : MissionSurroundings)

structure MissionSystem (κ K D : Type) where
  manager : κ → MissionManager
  statics : MissionStatics
  store : MissionStore K D

def MissionManager.fresh (datamanId : Nat) : MissionManager where
  state := .idle
  missionType := mavMissionTypeMission
  timeLastRecv := 0
  timeLastSent := 0
  reachedSentCount := 0
  intMode := false
  filesystemErrcount := 0
  myDatamanId := datamanId
  lastReached := -1
  transferDatamanId := dmKeyWaypointsOffboard1
  transferCount := 0
  transferSeq := 0
  transferCurrentSeq := -1
  transferPartnerSysid := 0
  transferPartnerCompid := 0
  geofenceLocked := false
  slowLastSent := 0

def MissionStatics.initial {K D : Type} (store : MissionStore K D) (stateRead fenceRead safeRead : Bool) :
    MissionStatics :=
  let state := if stateRead then store.missionState else none
  let fence := if fenceRead then store.stats mavMissionTypeFence else none
  let safe := if safeRead then store.stats mavMissionTypeRally else none
  { datamanId := state.elim dmKeyWaypointsOffboard0 MissionState.datamanId
    count := fun missionType =>
      if missionType = mavMissionTypeMission then state.elim 0 MissionState.count
      else if missionType = mavMissionTypeFence then fence.elim 0 MissionStatsEntry.numItems
      else if missionType = mavMissionTypeRally then safe.elim 0 MissionStatsEntry.numItems
      else 0
    currentSeq := state.elim 0 MissionState.currentSeq
    transferInProgress := false
    updateCounter := fun missionType =>
      if missionType = mavMissionTypeFence then fence.elim 0 MissionStatsEntry.updateCounter else 0 }

namespace MissionSystem
variable {κ K D : Type}

def start (store : MissionStore K D) (stateRead fenceRead safeRead : Bool) : MissionSystem κ K D where
  manager := fun _ => .fresh (MissionStatics.initial store stateRead fenceRead safeRead).datamanId
  statics := .initial store stateRead fenceRead safeRead
  store := store

def entering (s : MissionSystem κ K D) (i : κ) : MissionHandling K D := ⟨s.manager i,s.statics,s.store,[]⟩

def leaving [DecidableEq κ] (s : MissionSystem κ K D) (i : κ) (h : MissionHandling K D) : MissionSystem κ K D where
  manager := update s.manager i h.manager
  statics := h.statics
  store := h.store

/-- Handlers are not interrupted by each other. -/
def step [DecidableEq κ] [Zero K] [Zero D] (setup : MissionSetup K D) (s : MissionSystem κ K D) :
    MissionEvent κ K → MissionSystem κ K D
  | .message i header message env => s.leaving i ((s.entering i).handleMessage setup env header message)
  | .send i env => s.leaving i ((s.entering i).send setup env)
  | .checkActiveMission i env => s.leaving i ((s.entering i).checkActiveMission env)

end MissionSystem
end AerialManipulator
