import Uam.Library.CString
import Uam.Library.Files
import Uam.MavlinkMission

/-! The remote file server of `mavlink_ftp.cpp`, over any file system. A handler gets the files, the
session, the first work buffer and the payload, and leaves them with an error code. -/
namespace AerialManipulator
open Bytes Files CString

def kMaxDataLength : Nat := 239
def workBuffer1Len : Nat := kMaxDataLength
def workBuffer2Len : Nat := 256

inductive FtpOpcode
  | none
  | terminateSession
  | resetSessions
  | listDirectory
  | openFileRO
  | readFile
  | createFile
  | writeFile
  | removeFile
  | createDirectory
  | removeDirectory
  | openFileWO
  | truncateFile
  | rename
  | calcFileCRC32
  | burstReadFile
  deriving DecidableEq

def FtpOpcode.all : List FtpOpcode := [
  .none,.terminateSession,.resetSessions,.listDirectory,.openFileRO,.readFile,.createFile,.writeFile,.removeFile,
  .createDirectory,.removeDirectory,.openFileWO,.truncateFile,.rename,.calcFileCRC32,.burstReadFile]

def FtpOpcode.ofByte (opcode : Byte) : Option FtpOpcode := FtpOpcode.all[opcode.toNat]?

def kCmdBurstReadFile : Byte := 15#8
def kRspAck : Byte := 128#8
def kRspNak : Byte := 129#8

inductive FtpError
  | none
  | fail
  | failErrno
  | invalidDataSize
  | invalidSession
  | noSessionsAvailable
  | eof
  | unknownCommand
  | failFileExists
  | failFileProtected
  | fileNotFound
  deriving DecidableEq

def FtpError.number : FtpError → Byte
  | .none => 0#8
  | .fail => 1#8
  | .failErrno => 2#8
  | .invalidDataSize => 3#8
  | .invalidSession => 4#8
  | .noSessionsAvailable => 5#8
  | .eof => 6#8
  | .unknownCommand => 7#8
  | .failFileExists => 8#8
  | .failFileProtected => 9#8
  | .fileNotFound => 10#8

def kDirentFile : Byte := 70#8
def kDirentDir : Byte := 68#8
def kDirentSkip : Byte := 83#8

structure FtpPayload where
  seqNumber : BitVec 16
  session : Byte
  opcode : Byte
  size : Byte
  reqOpcode : Byte
  burstComplete : Byte
  offset : BitVec 32
  data : List Byte
  deriving DecidableEq

structure FtpSession where
  fd : Int
  fileSize : BitVec 32
  streamDownload : Bool
  streamOffset : BitVec 32
  streamSeqNumber : BitVec 16
  streamTargetSystemId : Byte
  streamTargetComponentId : Byte
  streamChunkTransmitted : BitVec 32
  deriving DecidableEq

def FtpSession.initial : FtpSession := ⟨-1,0#32,false,0#32,0#16,0#8,0#8,0#32⟩

structure FtpMessage where
  targetSystem : Byte
  targetComponent : Byte
  payload : FtpPayload
  deriving DecidableEq

/-- What differs between builds, the server's own address, and the system's checksum. -/
structure FtpBuild where
  nuttx : Bool
  systemId : Byte
  componentId : Byte
  crc32part : List Byte → BitVec 32 → BitVec 32

def oRdonly : OpenFlags := ⟨false,false,false⟩
def oWronly : OpenFlags := ⟨true,false,false⟩
def oCreatWronly : OpenFlags := ⟨true,true,false⟩
def oTruncWronly : OpenFlags := ⟨true,false,true⟩
def oCreatTruncWronly : OpenFlags := ⟨true,true,true⟩

/-- "/fs/microsd/". -/
def microsd : Path := [47#8,102#8,115#8,47#8,109#8,105#8,99#8,114#8,111#8,115#8,100#8,47#8]

/-- "/../". -/
def parentDir : Path := [47#8,46#8,46#8,47#8]

/-- "/fs/microsd/.trunc.tmp". -/
def truncTmp : Path := microsd ++ [46#8,116#8,114#8,117#8,110#8,99#8,46#8,116#8,109#8,112#8]

/-- What a handler works on; `behind` lies in memory behind the payload. -/
structure FtpTask (Φ : Type) where
  files : Φ
  session : FtpSession
  buffer1 : List Byte
  payload : FtpPayload
  behind : List Byte

structure FtpOutcome (Φ : Type) where
  task : FtpTask Φ
  errorCode : FtpError
  errno : Option Nat

namespace FtpPayload
variable (p : FtpPayload)

def dataAsCstring : FtpPayload :=
  {p with data := p.data.set (if p.size.toNat < kMaxDataLength then p.size.toNat else kMaxDataLength-1) 0#8}

def put (bytes : List Byte) : FtpPayload := {p with size := BitVec.ofNat 8 bytes.length,data := poke p.data 0 bytes}

end FtpPayload

namespace FtpBuild
variable (build : FtpBuild)

/-- `PX4_ROOTFSDIR`: empty, or ".". -/
def rootDir : Path := if build.nuttx then [] else [46#8]

def rooted (length : Nat) (string : List Byte) : List Byte :=
  build.rootDir ++ strncpy (length - build.rootDir.length) string

def rootedAndEnded (length : Nat) (string : List Byte) : List Byte := (build.rooted length string).set (length-1) 0#8

def validatePathIsWritable (path : List Byte) : Bool :=
  if build.nuttx then strncmp path microsd microsd.length && !strstr path parentDir else true

/-- `oflag & O_RDONLY`: the flag is a bit on NuttX and zero elsewhere. -/
def asksReading (flags : OpenFlags) : Bool := build.nuttx && !flags.write

end FtpBuild

structure FtpListing (Φ : Type) where
  files : Φ
  data : List Byte
  offset : Nat
  errorCode : FtpError
  errno : Option Nat

namespace FtpTask
variable {Φ : Type} (fs : FileSystem Φ) (build : FtpBuild) (t : FtpTask Φ)

def decimal (n : Nat) : List Byte := (Nat.toDigits 10 n).map fun c => BitVec.ofNat 8 c.toNat

def dirent (files : Φ) (buffer1 : List Byte) (entry : Entry) : Byte × List Byte :=
  match entry.kind with
  | .file =>
    let path := text buffer1 ++ [47#8] ++ entry.name.text
    let fileSize := match fs.stat files path with
      | .done st => if path.length < workBuffer2Len then st.size % 2^32 else 0
      | .failed _ => 0
    (kDirentFile,(entry.name.text ++ [9#8] ++ decimal fileSize).take (workBuffer2Len - 1))
  | .directory =>
    if entry.name.text = [46#8] ∨ entry.name.text = [46#8,46#8] then (kDirentSkip,[])
    else (kDirentDir,entry.name.text.take (workBuffer2Len-1))
  | .other => (kDirentSkip,[])

def skipEntries (directory : Nat) : Nat → Φ → Φ
  | 0,files => files
  | n+1,files => match (fs.readdir files directory).2 with
    | .nothing _ => (fs.readdir files directory).1
    | .entry _ => skipEntries directory n (fs.readdir files directory).1

def listEntries (buffer1 : List Byte) (directory : Nat) (start : BitVec 32) : Nat → Φ → List Byte → Nat → FtpListing Φ
  -- every entry takes two bytes or more, so that the loop ends before the fuel
  | 0,files,data,offset => ⟨files,data,offset,.none,none⟩
  | fuel+1,files,data,offset =>
    let next := fs.readdir files directory
    match next.2 with
    | .nothing errno =>
      if errno ≠ 0 then ⟨next.1,(data.set offset kDirentSkip).set (offset+1) 0#8,offset+2,.none,some errno⟩
      else ⟨next.1,data,offset,if start ≠ 0#32 ∧ offset = 0 then .eof else .none,some errno⟩
    | .entry entry =>
      let shown := dirent fs next.1 buffer1 entry
      if offset+shown.2.length+2 > kMaxDataLength then ⟨next.1,data,offset,.none,none⟩
      else listEntries buffer1 directory start fuel next.1 (poke data offset (shown.1 :: shown.2 ++ [0#8]))
        (offset+shown.2.length+2)

def workList : FtpOutcome Φ :=
  let payload := t.payload.dataAsCstring
  let buffer1 := build.rootedAndEnded workBuffer1Len payload.data
  let directory := fs.opendir t.files (text buffer1)
  match directory.2 with
  | .failed errno => ⟨{t with files := directory.1,payload := payload,buffer1 := buffer1},.fileNotFound,some errno⟩
  | .done dp =>
    let files := skipEntries fs dp payload.offset.toInt.toNat directory.1
    let listing := listEntries fs buffer1 dp payload.offset kMaxDataLength files payload.data 0
    ⟨{ t with
        files := fs.closedir listing.files dp
        payload := {payload with size := BitVec.ofNat 8 listing.offset,data := listing.data}
        buffer1 := buffer1 },listing.errorCode,listing.errno⟩

def workOpen (flags : OpenFlags) : FtpOutcome Φ :=
  if t.session.fd ≥ 0 then ⟨t,.noSessionsAvailable,none⟩
  else
    let payload := t.payload.dataAsCstring
    let buffer1 := build.rooted workBuffer1Len payload.data
    let t := {t with payload := payload,buffer1 := buffer1}
    let opened (fileSize : Nat) : FtpOutcome Φ :=
      let result := fs.openFile t.files (text buffer1) flags
      match result.2 with
      | .failed errno => ⟨{t with files := result.1},.failErrno,some errno⟩
      | .done fd => ⟨{ t with
          files := result.1
          session := {t.session with fd := fd,fileSize := BitVec.ofNat 32 fileSize,streamDownload := false}
          payload := { payload with session := 0#8 }.put (encode 4 fileSize) },.none,none⟩
    match fs.stat t.files (text buffer1) with
    | .done st => opened st.size
    | .failed errno => if build.asksReading flags then ⟨t,.failErrno,some errno⟩ else opened 0

def workRead : FtpOutcome Φ :=
  if t.payload.session ≠ 0#8 ∨ t.session.fd < 0 then ⟨t,.invalidSession,none⟩
  else if t.payload.offset.toNat ≥ t.session.fileSize.toNat then ⟨t,.eof,none⟩
  else
    let sought := fs.lseek t.files t.session.fd t.payload.offset.toNat
    match sought.2 with
    | .failed errno => ⟨{t with files := sought.1},.failErrno,some errno⟩
    | .done _ =>
      let result := fs.read sought.1 t.session.fd t.payload.size.toNat
      match result.2 with
      | .failed errno => ⟨{t with files := result.1},.failErrno,some errno⟩
      | .done bytes => ⟨{t with files := result.1,payload := t.payload.put bytes},.none,none⟩

def workBurst (targetSystemId targetComponentId : Byte) : FtpOutcome Φ :=
  if t.payload.session ≠ 0#8 ∧ t.session.fd < 0 then ⟨t,.invalidSession,none⟩
  else ⟨{ t with session := { t.session with
      streamDownload := true
      streamOffset := t.payload.offset
      streamChunkTransmitted := 0#32
      streamSeqNumber := t.payload.seqNumber+1#16
      streamTargetSystemId := targetSystemId
      streamTargetComponentId := targetComponentId } },.none,none⟩

def workWrite : FtpOutcome Φ :=
  if t.payload.session ≠ 0#8 ∧ t.session.fd < 0 then ⟨t,.invalidSession,none⟩
  else if !build.validatePathIsWritable t.buffer1 then ⟨t,.failFileProtected,none⟩
  else
    let sought := fs.lseek t.files t.session.fd t.payload.offset.toNat
    match sought.2 with
    | .failed _ => ⟨{t with files := sought.1},.failErrno,none⟩
    | .done _ =>
      let result := fs.write sought.1 t.session.fd (t.payload.data.take t.payload.size.toNat)
      if result.2.count < 0 then ⟨{t with files := result.1},.failErrno,some result.2.errno⟩
      else ⟨{t with files := result.1,payload := t.payload.put (encode 4 result.2.count.toNat)},.none,none⟩

def workTerminate : FtpOutcome Φ :=
  if t.payload.session ≠ 0#8 ∨ t.session.fd < 0 then ⟨t,.invalidSession,none⟩
  else ⟨{ t with
    files := fs.close t.files t.session.fd
    session := {t.session with fd := -1,streamDownload := false}
    payload := { t.payload with size := 0#8 } },.none,none⟩

def workReset : FtpOutcome Φ :=
  if t.session.fd ≠ -1 then ⟨{ t with
    files := fs.close t.files t.session.fd
    session := {t.session with fd := -1,streamDownload := false}
    payload := { t.payload with size := 0#8 } },.none,none⟩
  else ⟨{t with payload := {t.payload with size := 0#8}},.none,none⟩

def workOnPath (call : Φ → Path → Φ × Attempt Unit) : FtpOutcome Φ :=
  let payload := t.payload.dataAsCstring
  let buffer1 := build.rootedAndEnded workBuffer1Len payload.data
  let t := {t with payload := payload,buffer1 := buffer1}
  if !build.validatePathIsWritable buffer1 then ⟨t,.failFileProtected,none⟩
  else
    let result := call t.files (text buffer1)
    match result.2 with
    | .failed errno => ⟨{t with files := result.1},.failErrno,some errno⟩
    | .done _ => ⟨{t with files := result.1,payload := {payload with size := 0#8}},.none,none⟩

def workRemoveFile : FtpOutcome Φ := t.workOnPath build fs.unlink

def workRemoveDirectory : FtpOutcome Φ := t.workOnPath build fs.rmdir

def workCreateDirectory : FtpOutcome Φ := t.workOnPath build fs.mkdir

/-- Without a second path `errno` is set, not `_our_errno`. -/
def workRename : FtpOutcome Φ :=
  let payload := t.payload.dataAsCstring
  let oldpath := text payload.data
  if oldpath.length = payload.size.toNat then ⟨{t with payload := payload},.failErrno,none⟩
  else
    let buffer1 := build.rootedAndEnded workBuffer1Len payload.data
    let buffer2 := build.rootedAndEnded workBuffer2Len ((payload.data ++ t.behind).drop (oldpath.length + 1))
    let t := {t with payload := payload,buffer1 := buffer1}
    if !build.validatePathIsWritable buffer2 then ⟨t,.failFileProtected,none⟩
    else
      let result := fs.rename t.files (text buffer1) (text buffer2)
      match result.2 with
      | .failed errno => ⟨{t with files := result.1},.failErrno,some errno⟩
      | .done _ => ⟨{t with files := result.1,payload := {payload with size := 0#8}},.none,none⟩

end FtpTask

structure FtpCopy (Φ : Type) where
  files : Φ
  left : Nat
  errno : Option Nat

namespace FtpTask
variable {Φ : Type} (fs : FileSystem Φ) (build : FtpBuild) (t : FtpTask Φ)

def copyLoop (source target : Int) : Nat → Φ → Nat → FtpCopy Φ
  -- every turn copies a byte or more, so that the length is fuel enough
  | 0,files,length => ⟨files,length,none⟩
  | fuel+1,files,length =>
    if length = 0 then ⟨files,length,none⟩
    else
      let input := fs.read files source (min length workBuffer2Len)
      match input.2 with
      | .failed errno => ⟨input.1,length,some errno⟩
      | .done bytes =>
        if bytes.length = 0 then ⟨input.1,length,none⟩
        else
          let output := fs.write input.1 target bytes
          if output.2.count ≠ bytes.length then ⟨output.1,length,some output.2.errno⟩
          else copyLoop source target fuel output.1 (length-bytes.length)

def copyFile (files : Φ) (srcPath dstPath : Path) (length : Nat) : FtpCopy Φ :=
  let source := fs.openFile files srcPath oRdonly
  match source.2 with
  | .failed _ => ⟨source.1,max length 1,none⟩
  | .done srcFd =>
    let target := fs.openFile source.1 dstPath oCreatTruncWronly
    match target.2 with
    | .failed errno => ⟨fs.close target.1 srcFd,max length 1,some errno⟩
    | .done dstFd =>
      let copied := copyLoop fs srcFd dstFd length target.1 length
      {copied with files := fs.close (fs.close copied.files srcFd) dstFd}

def truncateAll (path : Path) : FtpOutcome Φ :=
  let result := fs.openFile t.files path oTruncWronly
  match result.2 with
  | .failed _ => ⟨{t with files := result.1},.failErrno,none⟩
  | .done fd => ⟨{t with files := fs.close result.1 fd},.none,none⟩

def extend (path : Path) : FtpOutcome Φ :=
  let result := fs.openFile t.files path oWronly
  match result.2 with
  | .failed errno => ⟨{t with files := result.1},.failErrno,some errno⟩
  | .done fd =>
    let sought := fs.lseek result.1 fd (t.payload.offset.toNat-1)
    match sought.2 with
    | .failed errno => ⟨{t with files := fs.close sought.1 fd},.failErrno,some errno⟩
    | .done _ =>
      let written := fs.write sought.1 fd [0#8]
      if written.2.count = 1 then ⟨{t with files := fs.close written.1 fd},.none,none⟩
      else ⟨{t with files := fs.close written.1 fd},.failErrno,some written.2.errno⟩

def shorten (path : Path) : FtpOutcome Φ :=
  let there := copyFile fs t.files path truncTmp t.payload.offset.toNat
  if there.left > 0 then ⟨{t with files := there.files},.failErrno,there.errno⟩
  else
    let back := copyFile fs there.files truncTmp path t.payload.offset.toNat
    if back.left > 0 then ⟨{t with files := back.files},.failErrno,back.errno.or there.errno⟩
    else
      let removed := fs.unlink back.files truncTmp
      match removed.2 with
      | .failed errno => ⟨{t with files := removed.1},.failErrno,some errno⟩
      | .done _ => ⟨{t with files := removed.1},.none,back.errno.or there.errno⟩

def truncateNuttx (path : Path) : FtpOutcome Φ :=
  match fs.stat t.files path with
  | .failed errno => ⟨t,.failErrno,some errno⟩
  | .done st =>
    if !st.regular then ⟨t,.failErrno,some Errno.eisdir⟩
    else if !st.writable then ⟨t,.failErrno,some Errno.erofs⟩
    else if t.payload.offset.toNat = st.size % 2^32 then ⟨t,.none,none⟩
    else if t.payload.offset.toNat = 0 then t.truncateAll fs path
    else if t.payload.offset.toNat > st.size % 2^32 then t.extend fs path
    else t.shorten fs path

def truncatePosix (path : Path) : FtpOutcome Φ :=
  let result := fs.truncate t.files path t.payload.offset.toNat
  match result.2 with
  | .failed _ => ⟨{t with files := result.1},.failErrno,none⟩
  | .done _ => ⟨{t with files := result.1},.none,none⟩

def workTruncateFile : FtpOutcome Φ :=
  let ended := t.payload.dataAsCstring
  let buffer1 := build.rootedAndEnded workBuffer1Len ended.data
  let t := {t with payload := {ended with size := 0#8},buffer1 := buffer1}
  if !build.validatePathIsWritable buffer1 then ⟨t,.failFileProtected,none⟩
  else if build.nuttx then t.truncateNuttx fs (text buffer1)
  else t.truncatePosix fs (text buffer1)

structure FtpChecksum (Φ : Type) where
  files : Φ
  checksum : BitVec 32
  failed : Option Nat

def crcLoop (fd : Int) : Nat → Φ → BitVec 32 → FtpChecksum Φ
  -- every turn but the last reads a full buffer
  | 0,files,checksum => ⟨files,checksum,none⟩
  | fuel+1,files,checksum =>
    let input := fs.read files fd workBuffer2Len
    match input.2 with
    | .failed errno => ⟨input.1,checksum,some errno⟩
    | .done bytes =>
      if bytes.length = workBuffer2Len then crcLoop fd fuel input.1 (build.crc32part bytes checksum)
      else ⟨input.1,build.crc32part bytes checksum,none⟩

def workCalcFileCRC32 : FtpOutcome Φ :=
  let payload := t.payload.dataAsCstring
  let buffer2 := build.rootedAndEnded workBuffer2Len payload.data
  let t := {t with payload := payload}
  let result := fs.openFile t.files (text buffer2) oRdonly
  match result.2 with
  | .failed _ => ⟨{t with files := result.1},.failErrno,none⟩
  | .done fd =>
    let crc := crcLoop fs build fd (fs.remaining result.1 fd+1) result.1 0#32
    let t := {t with files := fs.close crc.files fd}
    crc.failed.elim ⟨{t with payload := payload.put (encode 4 crc.checksum.toNat)},.none,none⟩
      fun errno => ⟨t,.failErrno,some errno⟩

def work (targetSystemId targetComponentId : Byte) : FtpOpcode → FtpOutcome Φ
  | .none => ⟨t,.none,none⟩
  | .terminateSession => t.workTerminate fs
  | .resetSessions => t.workReset fs
  | .listDirectory => t.workList fs build
  | .openFileRO => t.workOpen fs build oRdonly
  | .createFile => t.workOpen fs build oCreatTruncWronly
  | .openFileWO => t.workOpen fs build oCreatWronly
  | .readFile => t.workRead fs
  | .burstReadFile => t.workBurst targetSystemId targetComponentId
  | .writeFile => t.workWrite fs build
  | .removeFile => t.workRemoveFile fs build
  | .rename => t.workRename fs build
  | .truncateFile => t.workTruncateFile fs build
  | .createDirectory => t.workCreateDirectory fs build
  | .removeDirectory => t.workRemoveDirectory fs build
  | .calcFileCRC32 => t.workCalcFileCRC32 fs build

end FtpTask

structure FtpServer (Φ : Type) where
  files : Φ
  session : FtpSession
  buffer1 : Option (List Byte)
  buffer2 : Bool
  lastWorkBufferAccess : Nat
  /-- `_last_reply`, if it is valid: the header and four bytes of data. -/
  lastReply : Option FtpMessage
  ourErrno : Nat

def FtpServer.start {Φ : Type} (files : Φ) : FtpServer Φ := ⟨files,.initial,none,false,0,none,0⟩

/-- A message that reached the server, what `new` finds for the buffers, and the memory behind the message. -/
structure FtpRequest where
  now : Nat
  memory1 : Option (List Byte)
  memory2 : Bool
  sysid : Byte
  compid : Byte
  targetSystem : Byte
  targetComponent : Byte
  payload : FtpPayload
  behind : List Byte

structure FtpSend where
  now : Nat
  freeTxBuf : Nat
  stack : Nat → FtpPayload

namespace FtpServer
variable {Φ : Type} (fs : FileSystem Φ) (build : FtpBuild) (s : FtpServer Φ)

def ensureBuffersExist (r : FtpRequest) : FtpServer Φ :=
  {s with lastWorkBufferAccess := r.now,buffer1 := s.buffer1.or r.memory1,buffer2 := s.buffer2 || r.memory2}

def workBuffer : Option (List Byte) := if s.buffer2 then s.buffer1 else none

def reply (m : FtpMessage) : FtpServer Φ :=
  -- larger replies have no side effects, and may be computed again
  if m.payload.size.toNat ≤ 4 then
    {s with lastReply := some {m with payload := {m.payload with data := m.payload.data.take 4}}}
  else s

def shownError (errorCode : FtpError) (errno : Nat) : FtpError :=
  if errno = Errno.eexist then .failFileExists
  else if errno = Errno.enoent ∧ errorCode = .failErrno then .fileNotFound else errorCode

def nak (p : FtpPayload) (errorCode : FtpError) (errno : Nat) : FtpPayload :=
  if shownError errorCode errno = .failErrno then
    { p with
      reqOpcode := p.opcode
      opcode := kRspNak
      size := 2#8
      data := (p.data.set 0 FtpError.failErrno.number).set 1 (BitVec.ofNat 8 errno) }
  else {p with reqOpcode := p.opcode,opcode := kRspNak,size := 1#8,data := p.data.set 0 (shownError errorCode errno).number}

def answer (p : FtpPayload) (errorCode : FtpError) (errno : Nat) : FtpPayload :=
  let p := {p with seqNumber := p.seqNumber+1#16}
  if errorCode = .none then {p with reqOpcode := p.opcode,opcode := kRspAck} else nak p errorCode errno

def finish (r : FtpRequest) (p : FtpPayload) (errorCode : FtpError) (streamSend : Bool) : FtpServer Φ × Option FtpMessage :=
  let s := {s with lastReply := none}
  if !streamSend || errorCode ≠ .none then
    let m : FtpMessage := ⟨r.sysid,r.compid,answer p errorCode s.ourErrno⟩
    (s.reply m,some m)
  else (s,none)

def outcome (r : FtpRequest) (buffer1 : List Byte) : FtpOutcome Φ :=
  let t : FtpTask Φ := ⟨s.files,s.session,buffer1,r.payload,r.behind⟩
  (FtpOpcode.ofByte r.payload.opcode).elim ⟨t,.unknownCommand,none⟩ (t.work fs build r.sysid r.compid)

def adopt (o : FtpOutcome Φ) : FtpServer Φ :=
  { s with
    files := o.task.files
    session := o.task.session
    buffer1 := some o.task.buffer1
    ourErrno := o.errno.getD s.ourErrno }

def execute (r : FtpRequest) (buffer1 : List Byte) : FtpServer Φ × Option FtpMessage :=
  let o := s.outcome fs build r buffer1
  (s.adopt o).finish r o.task.payload o.errorCode (FtpOpcode.ofByte r.payload.opcode = some .burstReadFile)

def isResent (p last : FtpPayload) : Bool := p.seqNumber.toNat+1 = last.seqNumber.toNat

def resends (p : FtpPayload) : Option FtpMessage := s.lastReply.filter fun last => isResent p last.payload

def processRequest (r : FtpRequest) : FtpServer Φ × Option FtpMessage :=
  let s := s.ensureBuffersExist r
  s.workBuffer.elim (finish {s with ourErrno := Errno.enomem} r r.payload .failErrno false)
    fun buffer1 =>
      if r.payload.size.toNat > kMaxDataLength then s.finish r r.payload .invalidDataSize false
      else (s.resends r.payload).elim (s.execute fs build r buffer1) fun last => (s,some last)

def handleMessage (r : FtpRequest) : FtpServer Φ × Option FtpMessage :=
  if (r.targetSystem = build.systemId ∨ r.targetSystem = 0#8) ∧ (r.targetComponent = build.componentId ∨ r.targetComponent = 0#8) then
    s.processRequest fs build r
  else (s,none)

structure Packet (Φ : Type) where
  files : Φ
  session : FtpSession
  payload : FtpPayload
  more : Bool

def mavlinkFileTransferProtocolSize : Nat := 254+12

def getSize : Nat := if s.session.streamDownload then mavlinkFileTransferProtocolSize else 0

def streamNak (files : Φ) (session : FtpSession) (p : FtpPayload) (errorCode : FtpError) (errno : Nat) : Packet Φ where
  files := files
  session := {session with streamDownload := false}
  payload := if errorCode = .failErrno then
      {p with opcode := kRspNak,size := 2#8,data := (p.data.set 0 errorCode.number).set 1 (BitVec.ofNat 8 errno)}
    else {p with opcode := kRspNak,size := 1#8,data := p.data.set 0 errorCode.number}
  more := false

def streamAck (room : Nat) (files : Φ) (session : FtpSession) (p : FtpPayload) : Packet Φ :=
  if room < mavlinkFileTransferProtocolSize * 2 then
    if session.streamChunkTransmitted.toNat > 35000 then
      ⟨files,{session with streamDownload := false,streamChunkTransmitted := 0#32},{p with burstComplete := 1#8},false⟩
    else ⟨files,session,p,false⟩
  else ⟨files,session,{p with burstComplete := 0#8},true⟩

def packet (room : Nat) (stack : FtpPayload) : Packet Φ :=
  let p : FtpPayload := { stack with
    seqNumber := s.session.streamSeqNumber
    session := 0#8
    opcode := kRspAck
    reqOpcode := kCmdBurstReadFile
    offset := s.session.streamOffset }
  let session := {s.session with streamSeqNumber := s.session.streamSeqNumber+1#16}
  if session.streamOffset.toNat ≥ session.fileSize.toNat then streamNak s.files session p .eof s.ourErrno
  else
    let sought := fs.lseek s.files session.fd p.offset.toNat
    match sought.2 with
    | .failed _ => streamNak sought.1 session p .failErrno s.ourErrno
    | .done _ =>
      let result := fs.read sought.1 session.fd kMaxDataLength
      match result.2 with
      | .failed _ => streamNak result.1 session p .failErrno s.ourErrno
      | .done bytes => streamAck room result.1 { session with
          streamOffset := session.streamOffset+BitVec.ofNat 32 bytes.length
          streamChunkTransmitted := session.streamChunkTransmitted+BitVec.ofNat 32 bytes.length } (p.put bytes)

def streamLoop (stack : Nat → FtpPayload) : Nat → Nat → FtpServer Φ → FtpServer Φ × List FtpMessage
  -- the room shrinks with every turn but the last
  | 0,_,s => (s,[])
  | fuel+1,room,s =>
    let sent := s.packet fs room (stack fuel)
    let m : FtpMessage := ⟨sent.session.streamTargetSystemId,sent.session.streamTargetComponentId,sent.payload⟩
    let s := {s with files := sent.files,session := sent.session}.reply m
    if sent.more then
      let rest := streamLoop stack fuel (room-mavlinkFileTransferProtocolSize) s
      (rest.1,m :: rest.2)
    else (s,[m])

def tidy (now : Nat) : FtpServer Φ :=
  if s.buffer1.isSome ∨ s.buffer2 then
    if hrtElapsedTime now s.lastWorkBufferAccess > 2000000 then {s with buffer1 := none,buffer2 := false} else s
  else if s.session.fd ≠ -1 ∧ hrtElapsedTime now s.lastWorkBufferAccess > 10000000 then { s with
    files := fs.close s.files s.session.fd
    session := {s.session with fd := -1,streamDownload := false}
    lastReply := none }
  else s

def send (e : FtpSend) : FtpServer Φ × List FtpMessage :=
  let s := s.tidy fs e.now
  if !s.session.streamDownload then (s,[])
  else if e.freeTxBuf < s.getSize then (s,[])
  else streamLoop fs e.stack (e.freeTxBuf+1) e.freeTxBuf s

end FtpServer

inductive FtpEvent
  | message (request : FtpRequest)
  | send (call : FtpSend)

namespace FtpServer
variable {Φ : Type} (fs : FileSystem Φ) (build : FtpBuild)

def step (s : FtpServer Φ) : FtpEvent → FtpServer Φ
  | .message r => (s.handleMessage fs build r).1
  | .send e => (s.send fs e).1

end FtpServer
end AerialManipulator
