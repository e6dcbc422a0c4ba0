import Uam.Library.Bytes

/-! A file system as a program sees it: each call takes the files to a new state, and
succeeds or leaves an error number. A recording one knows the file of each descriptor,
and lists what was changed. -/
namespace Files
open Bytes

abbrev Path := List Byte

namespace Errno

def enoent : Nat := 2
def ebadf : Nat := 9
def enomem : Nat := 12
def eexist : Nat := 17
def eisdir : Nat := 21
def erofs : Nat := 30

end Errno

inductive Attempt (α : Type)
  | failed (errno : Nat)
  | done (value : α)

structure Stat where
  size : Nat
  regular : Bool
  writable : Bool

structure OpenFlags where
  write : Bool
  create : Bool
  truncate : Bool
  deriving DecidableEq

inductive EntryKind
  | file
  | directory
  | other

structure Entry where
  kind : EntryKind
  name : CText

/-- At the end of a directory the error number is zero. -/
inductive DirectoryRead
  | nothing (errno : Nat)
  | entry (entry : Entry)

structure Written where
  count : Int
  errno : Nat

structure FileSystem (Φ : Type) where
  stat : Φ → Path → Attempt Stat
  openFile : Φ → Path → OpenFlags → Φ × Attempt Nat
  close : Φ → Int → Φ
  lseek : Φ → Int → Nat → Φ × Attempt Unit
  read : Φ → Int → Nat → Φ × Attempt (List Byte)
  write : Φ → Int → List Byte → Φ × Written
  unlink : Φ → Path → Φ × Attempt Unit
  rename : Φ → Path → Path → Φ × Attempt Unit
  mkdir : Φ → Path → Φ × Attempt Unit
  rmdir : Φ → Path → Φ × Attempt Unit
  truncate : Φ → Path → Nat → Φ × Attempt Unit
  opendir : Φ → Path → Φ × Attempt Nat
  readdir : Φ → Nat → Φ × DirectoryRead
  closedir : Φ → Nat → Φ
  remaining : Φ → Int → Nat
  read_remaining : ∀ φ fd n bytes,(read φ fd n).2 = .done bytes →
    bytes.length ≤ n ∧ remaining (read φ fd n).1 fd+bytes.length ≤ remaining φ fd

inductive Change
  | create (path : Path)
  | truncate (path : Path)
  | write (path : Path)
  | remove (path : Path)
  | rename (source destination : Path)
  | makeDirectory (path : Path)

def Change.paths : Change → List Path
  | .create path | .truncate path | .write path | .remove path | .makeDirectory path => [path]
  | .rename source destination => [source,destination]

structure Recorded (Φ : Type) where
  files : Φ
  /-- The file of a descriptor, and whether it was opened for writing. -/
  descriptor : Int → Option (Path × Bool)
  changes : List Change

namespace Recorded
variable {Φ : Type} (r : Recorded Φ)

def blank (files : Φ) : Recorded Φ := ⟨files,fun _ => none,[]⟩

def change (c : Change) (result : Φ × Attempt Unit) : Recorded Φ × Attempt Unit :=
  match result.2 with
  | .failed errno => ({r with files := result.1},.failed errno)
  | .done _ => ({r with files := result.1,changes := r.changes ++ [c]},.done ())

def keep {α : Type} (result : Φ × α) : Recorded Φ × α := ({r with files := result.1},result.2)

def openFile (fs : FileSystem Φ) (path : Path) (flags : OpenFlags) : Recorded Φ × Attempt Nat :=
  let result := fs.openFile r.files path flags
  match result.2 with
  | .failed errno => ({r with files := result.1},.failed errno)
  | .done fd => ({
      files := result.1
      descriptor := Function.update r.descriptor fd (some (path,flags.write))
      changes := r.changes ++ (if flags.create then [.create path] else []) ++ if flags.truncate then [.truncate path] else [] },
    .done fd)

def write (fs : FileSystem Φ) (fd : Int) (bytes : List Byte) : Recorded Φ × Written :=
  (r.descriptor fd).elim (r,⟨-1,Errno.ebadf⟩) fun target =>
    let result := fs.write r.files fd bytes
    if target.2 then
      ({r with files := result.1,changes := if 0 ≤ result.2.count then r.changes ++ [.write target.1] else r.changes},result.2)
    else (r,⟨-1,Errno.ebadf⟩)

end Recorded

def FileSystem.recorded {Φ : Type} (fs : FileSystem Φ) : FileSystem (Recorded Φ) where
  stat r := fs.stat r.files
  openFile r := r.openFile fs
  close r fd := {r with files := fs.close r.files fd,descriptor := Function.update r.descriptor fd none}
  lseek r fd offset := r.keep (fs.lseek r.files fd offset)
  read r fd n := r.keep (fs.read r.files fd n)
  write r := r.write fs
  unlink r path := r.change (.remove path) (fs.unlink r.files path)
  rename r source destination := r.change (.rename source destination) (fs.rename r.files source destination)
  mkdir r path := r.change (.makeDirectory path) (fs.mkdir r.files path)
  rmdir r path := r.change (.remove path) (fs.rmdir r.files path)
  truncate r path length := r.change (.truncate path) (fs.truncate r.files path length)
  opendir r path := r.keep (fs.opendir r.files path)
  readdir r directory := r.keep (fs.readdir r.files directory)
  closedir r directory := {r with files := fs.closedir r.files directory}
  remaining r := fs.remaining r.files
  read_remaining r := fs.read_remaining r.files

/-- Every change was of an allowed file, as is every descriptor for writing. -/
structure Confined {Φ : Type} (allowed : Path → Prop) (r : Recorded Φ) : Prop where
  changes : ∀ c ∈ r.changes,∀ path ∈ c.paths,allowed path
  descriptors : ∀ fd path,r.descriptor fd = some (path,true) → allowed path

namespace Confined
variable {Φ : Type} {allowed : Path → Prop} {fs : FileSystem Φ} {r : Recorded Φ}

lemma blank (files : Φ) : Confined allowed (Recorded.blank files) := ⟨by simp [Recorded.blank],by simp [Recorded.blank]⟩

section
variable (confined : Confined allowed r)
include confined

lemma keep {α : Type} (result : Φ × α) : Confined allowed (r.keep result).1 := ⟨confined.changes,confined.descriptors⟩

lemma change {c : Change} (paths : ∀ path ∈ c.paths,allowed path) (result : Φ × Attempt Unit) :
    Confined allowed (r.change c result).1 := by
  unfold Recorded.change
  split
  · exact ⟨confined.changes,confined.descriptors⟩
  · refine ⟨List.forall_mem_append.mpr ⟨confined.changes,?_⟩,confined.descriptors⟩
    simpa using paths

lemma close (fd : Int) : Confined allowed (fs.recorded.close r fd) := by
  refine ⟨confined.changes,fun other path open_ => ?_⟩
  change Function.update r.descriptor fd none other = _ at open_
  by_cases same : other = fd
  · rw [same,Function.update_self] at open_
    cases open_
  · rw [Function.update_of_ne same] at open_
    exact confined.descriptors other path open_

lemma closedir (directory : Nat) : Confined allowed (fs.recorded.closedir r directory) :=
  ⟨confined.changes,confined.descriptors⟩

lemma openFile {flags : OpenFlags} (permitted : flags.write ∨ flags.create ∨ flags.truncate → allowed path) :
    Confined allowed (fs.recorded.openFile r path flags).1 := by
  change Confined allowed (r.openFile fs path flags).1
  unfold Recorded.openFile
  dsimp only
  split
  · exact ⟨confined.changes,confined.descriptors⟩
  next fd _ =>
  refine ⟨List.forall_mem_append.mpr ⟨List.forall_mem_append.mpr ⟨confined.changes,?_⟩,?_⟩,fun other opened there => ?_⟩
  · split
    next create => simpa [Change.paths] using permitted (.inr (.inl create))
    · simp
  · split
    next truncate => simpa [Change.paths] using permitted (.inr (.inr truncate))
    · simp
  · have there : Function.update r.descriptor (fd : Int) (some (path,flags.write)) other = some (opened,true) := there
    by_cases same : other = (fd : Int)
    · rw [same,Function.update_self] at there
      obtain ⟨rfl,writing⟩ := Prod.mk.inj (Option.some.inj there)
      exact permitted (.inl writing)
    · rw [Function.update_of_ne same] at there
      exact confined.descriptors other opened there

lemma write (fd : Int) (bytes : List Byte) : Confined allowed (fs.recorded.write r fd bytes).1 := by
  change Confined allowed (r.write fs fd bytes).1
  unfold Recorded.write
  cases target : r.descriptor fd with
  | none => exact confined
  | some target' =>
    obtain ⟨path,writing⟩ := target'
    cases writing with
    | false => exact confined
    | true =>
      refine ⟨?_,confined.descriptors⟩
      change ∀ c ∈ (if 0 ≤ (fs.write r.files fd bytes).2.count then r.changes ++ [.write path] else r.changes),_
      split
      · refine List.forall_mem_append.mpr ⟨confined.changes,?_⟩
        simpa [Change.paths] using confined.descriptors fd path target
      · exact confined.changes

end
end Confined
end Files
