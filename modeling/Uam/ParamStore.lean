import Uam.Library.Binary32
import Uam.Library.Bytes
import Uam.Library.SortedArray

/-! The parameter store of `parameters.cpp`: the generated table with the static defaults, the
arrays of set values and of runtime defaults, and the bitsets beside them. A value is a word of 32
bits, read by its parameter's type; other handles are refused. -/
namespace AerialManipulator

inductive ParamType where
  | int32
  | float
  deriving DecidableEq

structure ParamInfo where
  name : Bytes.CText
  type : ParamType
  val : BitVec 32

structure ParamWbuf where
  val : BitVec 32
  param : Nat

structure ParamStore where
  paramValues : Option (List ParamWbuf)
  paramCustomDefaultValues : Option (List ParamWbuf)
  paramsActive : Nat → Bool
  paramsChanged : Nat → Bool
  paramsCustomDefault : Nat → Bool
  paramsUnsaved : Nat → Bool
  autosaveScheduled : Bool
  autosaveDisabled : Bool
  paramInstance : Nat

def px4Ok : Int := 0
def px4Error : Int := -1

def fltEpsilonUnits : Nat := 2^126

namespace ParamType

def differs : ParamType → BitVec 32 → BitVec 32 → Bool
  | int32,stored,val => stored != val
  | float,stored,val => (Binary32.absSub stored val).exceeds fltEpsilonUnits

def agrees : ParamType → BitVec 32 → BitVec 32 → Bool
  | int32,a,b => a == b
  | float,a,b => (Binary32.absSub a b).atMost fltEpsilonUnits

end ParamType

namespace ParamStore

def initial : ParamStore :=
  ⟨none,none,fun _ => false,fun _ => false,fun _ => false,fun _ => false,false,false,0⟩

def utarrayFind (param : Nat) (a : List ParamWbuf) : Option (Nat × BitVec 32) :=
  (SortedArray.bsearch ParamWbuf.param param a).bind fun i => a[i]?.map fun entry => (i,entry.val)

def utarraySort (a : List ParamWbuf) : List ParamWbuf := SortedArray.sort ParamWbuf.param a

def paramNotifyChanges (s : ParamStore) : ParamStore := {s with paramInstance := s.paramInstance+1}

def paramAutosave (s : ParamStore) : ParamStore :=
  if s.autosaveScheduled || s.autosaveDisabled then s else {s with autosaveScheduled := true}

def paramFindChanged (s : ParamStore) (param : Nat) : Option (Nat × BitVec 32) :=
  if s.paramsChanged param then s.paramValues.bind (utarrayFind param) else none

def paramFindCustomDefault (s : ParamStore) (param : Nat) : Option (Nat × BitVec 32) :=
  s.paramCustomDefaultValues.bind (utarrayFind param)

section
variable (parameters : List ParamInfo)

def paramGetDefaultValueInternal (s : ParamStore) (param : Nat) : Option (BitVec 32) :=
  parameters[param]?.map fun info =>
    if s.paramsCustomDefault param then (s.paramFindCustomDefault param).elim info.val (·.2) else info.val

def paramGetValuePtr (s : ParamStore) (param : Nat) : Option (BitVec 32) :=
  parameters[param]?.map fun info =>
    (s.paramFindChanged param).elim
      (if s.paramsCustomDefault param then (s.paramFindCustomDefault param).elim info.val (·.2) else info.val) (·.2)

def paramGet (s : ParamStore) (param : Nat) : Option (BitVec 32) :=
  parameters[param]?.bind fun info =>
    -- Without a bit set the static default is copied and no lock taken.
    if !s.paramsChanged param && !s.paramsCustomDefault param then some info.val
    else s.paramGetValuePtr parameters param

def createValues (s : ParamStore) : ParamStore :=
  if s.paramValues.isNone then
    {s with paramValues := some [], paramsChanged := fun _ => false, paramsUnsaved := fun _ => false}
  else s

def addChanged (s : ParamStore) (param : Nat) : ParamStore :=
  { s with
    paramValues := s.paramValues.map fun a => utarraySort (a ++ [⟨0,param⟩])
    paramsChanged := Function.update s.paramsChanged param true }

def updateChanged (s : ParamStore) (info : ParamInfo) (param : Nat) (slot : Nat × BitVec 32) (val : BitVec 32)
    (markSaved : Bool) : ParamStore :=
  { s with
    paramValues := if info.type.differs slot.2 val then s.paramValues.map (·.set slot.1 ⟨val,param⟩) else s.paramValues
    paramsChanged := Function.update s.paramsChanged param true
    paramsUnsaved := Function.update s.paramsUnsaved param (!markSaved) }

def paramSetInternal (s : ParamStore) (param : Nat) (val : Option (BitVec 32)) (markSaved notifyChanges : Bool) :
    Int × ParamStore :=
  parameters[param]?.elim (px4Error,s) fun info => val.elim (px4Error,s) fun val =>
    let created := s.createValues
    let isNew := (created.paramFindChanged param).isNone
    let found := if isNew then created.addChanged param else created
    (found.paramFindChanged param).elim (-1,found) fun slot =>
      let updated := found.updateChanged info param slot val markSaved
      let paramChanged := isNew || info.type.differs slot.2 val
      let saved := if paramChanged && !markSaved then updated.paramAutosave else updated
      (px4Ok,if paramChanged && notifyChanges then saved.paramNotifyChanges else saved)

def paramSet (s : ParamStore) (param : Nat) (val : Option (BitVec 32)) : Int × ParamStore :=
  s.paramSetInternal parameters param val false true

def paramSetNoNotification (s : ParamStore) (param : Nat) (val : Option (BitVec 32)) : Int × ParamStore :=
  s.paramSetInternal parameters param val false false

def paramUsed (s : ParamStore) (param : Nat) : Bool := param < parameters.length && s.paramsActive param

def createCustomDefaults (s : ParamStore) : ParamStore :=
  if s.paramCustomDefaultValues.isNone then
    {s with paramCustomDefaultValues := some [], paramsCustomDefault := fun _ => false}
  else s

def eraseCustomDefault (s : ParamStore) (param : Nat) : ParamStore :=
  { s with
    paramCustomDefaultValues := (s.paramFindCustomDefault param).elim s.paramCustomDefaultValues fun slot =>
      s.paramCustomDefaultValues.map (·.eraseIdx slot.1)
    paramsCustomDefault := Function.update s.paramsCustomDefault param false }

def addCustomDefault (s : ParamStore) (param : Nat) : ParamStore :=
  {s with paramCustomDefaultValues := s.paramCustomDefaultValues.map fun a => utarraySort (a ++ [⟨0,param⟩])}

def updateCustomDefault (s : ParamStore) (param : Nat) (slot : Nat × BitVec 32) (val : BitVec 32) : ParamStore :=
  { s with
    paramCustomDefaultValues := s.paramCustomDefaultValues.map (·.set slot.1 ⟨val,param⟩)
    paramsCustomDefault := Function.update s.paramsCustomDefault param true }

def paramSetDefaultValue (s : ParamStore) (param : Nat) (val : Option (BitVec 32)) : Int × ParamStore :=
  parameters[param]?.elim (px4Error,s) fun info => val.elim (px4Error,s) fun val =>
    let created := s.createCustomDefaults
    let found := if (created.paramFindCustomDefault param).isNone then created.addCustomDefault param else created
    let outcome :=
      -- The first argument of the comparison is the static default.
      if info.type.agrees info.val val then (px4Ok,created.eraseCustomDefault param)
      else (found.paramFindCustomDefault param).elim (px4Error,found) fun slot =>
        (px4Ok,found.updateCustomDefault param slot val)
    (outcome.1,
      if outcome.1 == px4Ok && outcome.2.paramUsed parameters param then outcome.2.paramNotifyChanges else outcome.2)

def paramResetInternal (s : ParamStore) (param : Nat) (notify : Bool) : Bool × ParamStore :=
  let slot := if param < parameters.length then s.paramFindChanged param else none
  let erased :=
    if param < parameters.length then
      { s with
        paramValues := slot.elim s.paramValues fun slot => s.paramValues.map (·.eraseIdx slot.1)
        paramsChanged := Function.update s.paramsChanged param false
        paramsUnsaved := Function.update s.paramsUnsaved param true }
    else s
  let saved := erased.paramAutosave
  (!decide (param < parameters.length),if slot.isSome && notify then saved.paramNotifyChanges else saved)

def paramReset (s : ParamStore) (param : Nat) : Bool × ParamStore := s.paramResetInternal parameters param true

def paramResetAllInternal (s : ParamStore) (autoSave : Bool) : ParamStore :=
  let freed := { s with
    paramsChanged := if s.paramValues.isSome then fun _ => false else s.paramsChanged
    paramValues := none }
  let saved := if autoSave then freed.paramAutosave else freed
  saved.paramNotifyChanges

def paramResetAll (s : ParamStore) : ParamStore := s.paramResetAllInternal true

end
end ParamStore
end AerialManipulator
