import Uam.ParamStore
import Uam.TinyBson
import Mathlib.Data.List.Lex

/-! Saving parameters to a file and loading them: `param_export_internal`, `param_verify` and
`param_import_internal`. Floats are written as doubles. -/
namespace AerialManipulator
open Bytes BsonEncoder BsonDecoder

def ParamInfo.key (info : ParamInfo) : List Nat := info.name.text.map BitVec.toNat

/-- The generated table: sorted by name, each of at most 16 bytes. -/
structure ParamTable where
  parameters : List ParamInfo
  sorted : SortedArray.Sorted ParamInfo.key parameters
  short : ∀ info ∈ parameters, info.name.text.length ≤ 16

namespace ParamTable
variable (table : ParamTable)

def findLoop (name : List Byte) : Nat → Nat → Nat → Option Nat
  | 0,_,_ => none
  | fuel+1,front,last =>
    if front ≤ last then
      let middle := front + (last - front) / 2
      table.parameters[middle]?.bind fun info =>
        if name.map BitVec.toNat = info.key then some middle
        else if middle = front then none
        else if name.map BitVec.toNat < info.key then findLoop name fuel front middle
        else findLoop name fuel middle last
    else none

def paramFindNoNotification (name : List Byte) : Option Nat :=
  table.findLoop name (table.parameters.length+1) 0 table.parameters.length

def bsonValue (type : ParamType) (val : BitVec 32) : BsonValue :=
  if type = .int32 then .int32 val else .double (Binary32.widen val)

def exported (s : ParamStore) (filter : Nat → Bool) (entry : ParamWbuf) : Option BsonEntry :=
  if !filter entry.param then none
  else table.parameters[entry.param]?.bind fun info =>
    let defaultValue := (s.paramGetDefaultValueInternal table.parameters entry.param).getD 0
    if info.type.agrees entry.val defaultValue then none else some ⟨info.name,bsonValue info.type entry.val⟩

def paramExportInternal (s : ParamStore) (fd : File) (filter : Nat → Bool) : Option File :=
  (bsonEncoderInitBufFile fd 256).bind fun e =>
    (((s.paramValues.getD []).filterMap (table.exported s filter)).foldlM append e).bind fun e =>
      e.bsonEncoderFini.bind (·.fd)

def paramVerifyCallback (s : ParamStore) (d : BsonDecoder) (state : Unit) : Int × BsonDecoder × Unit :=
  if d.item = .eoo then (0,d,state)
  else (table.paramFindNoNotification d.name).elim (-1,d,state) fun param =>
    let type := table.parameters[param]?.map ParamInfo.type
    let result : Int := match d.item with
      | .int32 i32 =>
        if type ≠ some .int32 then -1
        else (s.paramGet table.parameters param).elim (-1) fun value => if value = i32 then 1 else -1
      | .double v =>
        if type ≠ some .float then -1
        else (s.paramGet table.parameters param).elim (-1) fun value =>
          if (Binary32.absSub value (Binary32.narrow v)).atMost fltEpsilonUnits then 1 else -1
      | _ => -1
    (result,d,state)

def paramVerify (s : ParamStore) (fd : File) : Int :=
  (bsonDecoderInitFile (fd.seek 0)).elim (-1) fun d =>
    let decoded := decodeLoop (table.paramVerifyCallback s) (fd.content.length+1) d ()
    if decoded.1 = 0 ∧ decoded.2.1.totalDocumentSize = decoded.2.1.totalDecodedSize then 0 else -1

def paramImportCallback (d : BsonDecoder) (s : ParamStore) : Int × BsonDecoder × ParamStore :=
  if d.item = .eoo then (0,d,s)
  -- Unknown parameters are ignored.
  else (table.paramFindNoNotification d.name).elim (1,d,s) fun param =>
    let type := table.parameters[param]?.map ParamInfo.type
    let set : ParamStore := match d.item with
      | .int32 i32 =>
        if type = some .int32 then (s.paramSetInternal table.parameters param (some i32) true true).2 else s
      | .double v =>
        if type = some .float then
          (s.paramSetInternal table.parameters param (some (Binary32.narrow v)) true true).2
        else s
      | _ => s
    (1,d,set)

def paramImportInternal : Nat → File → ParamStore → Int × ParamStore
  | 0,_,s => (-1,s)
  | attempts+1,fd,s =>
    (bsonDecoderInitFile fd).elim (paramImportInternal attempts (fd.seek 0) s) fun d =>
      let decoded := decodeLoop table.paramImportCallback (fd.content.length+1) d s
      if decoded.1 = 0 ∧ decoded.2.1.totalDocumentSize = decoded.2.1.totalDecodedSize then (0,decoded.2.2)
      else if decoded.1 = -enodata ∧ attempts = 0 then (0,decoded.2.2)
      else paramImportInternal attempts (fd.seek 0) decoded.2.2

def maxAttempts : Nat := 3

def paramImport (fd : File) (s : ParamStore) : Int × ParamStore := table.paramImportInternal maxAttempts fd s

end ParamTable
end AerialManipulator
