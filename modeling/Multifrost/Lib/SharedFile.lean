import Mathlib.Logic.Function.Basic
import Mathlib.Tactic.Common

/-!
# A path shared by several processes

`SharedFile α` is the part of a file system that one path shows: which file the path names, if any,
and what the files contain.  A file outlives its name.  `remove` takes the name away and leaves the
file to whoever has it open, and a write to an open file goes to that file, whatever the path names
by then.

Every operation is one atomic step.  The content of a file is `none` from the moment it is created
or truncated until something is written to it.
-/

/-- One path, and the files it has named; a file is a number. -/
structure SharedFile (α : Type*) where
  /-- The file the path names. -/
  entry : Option Nat
  /-- The contents of the files. -/
  files : Nat → Option α
  /-- The number of the next file to be created. -/
  next : Nat

namespace SharedFile

variable {α : Type*}

/-- No file has been created yet. -/
def empty : SharedFile α := ⟨none, fun _ => none, 0⟩

/-- Give the path a new, empty file. -/
def link (fs : SharedFile α) : SharedFile α :=
  ⟨some fs.next, Function.update fs.files fs.next none, fs.next + 1⟩

/-- Exclusive create: fails when the path names a file. -/
def createNew (fs : SharedFile α) : Option (Nat × SharedFile α) :=
  match fs.entry with
  | none => some (fs.next, fs.link)
  | some _ => none

/-- Open for writing: the file is truncated, or created when the path names none. -/
def openTruncate (fs : SharedFile α) : Nat × SharedFile α :=
  match fs.entry with
  | none => (fs.next, fs.link)
  | some f => (f, { fs with files := Function.update fs.files f none })

/-- Write to an open file. -/
def write (fs : SharedFile α) (fd : Nat) (a : α) : SharedFile α :=
  { fs with files := Function.update fs.files fd (some a) }

/-- Read the file the path names; `none` when it names none. -/
def read (fs : SharedFile α) : Option (Option α) := fs.entry.map fs.files

/-- Take the name away. -/
def remove (fs : SharedFile α) : SharedFile α := { fs with entry := none }

/-- An exclusive create succeeds exactly when the path names no file. -/
theorem createNew_eq_some {fs fs' : SharedFile α} {fd : Nat} :
    fs.createNew = some (fd, fs') ↔ fs.entry = none ∧ fd = fs.next ∧ fs' = fs.link := by
  unfold createNew
  cases h : fs.entry with
  | none => simp [eq_comm]
  | some f => simp

/-- After an open the path names the opened file. -/
theorem entry_openTruncate (fs : SharedFile α) :
    fs.openTruncate.2.entry = some fs.openTruncate.1 := by
  unfold openTruncate
  cases h : fs.entry with
  | none => rfl
  | some f => rfl

/-- What the files contain, by the operations that change it. -/
theorem files_write (fs : SharedFile α) (fd f : Nat) (a : α) :
    (fs.write fd a).files f = if f = fd then some a else fs.files f :=
  Function.update_apply ..

theorem files_link_eq_some {fs : SharedFile α} {f : Nat} {a : α}
    (h : fs.link.files f = some a) : fs.files f = some a := by
  unfold link at h
  dsimp only at h
  rw [Function.update_apply] at h
  split_ifs at h
  exact h

/-- An exclusive create adds no content to a file. -/
theorem files_createNew_eq_some {fs fs' : SharedFile α} {fd f : Nat} {a : α}
    (hc : fs.createNew = some (fd, fs')) (h : fs'.files f = some a) : fs.files f = some a := by
  obtain ⟨-, -, rfl⟩ := createNew_eq_some.mp hc
  exact files_link_eq_some h

theorem files_openTruncate_eq_some {fs : SharedFile α} {f : Nat} {a : α}
    (h : fs.openTruncate.2.files f = some a) : fs.files f = some a := by
  unfold openTruncate at h
  cases he : fs.entry with
  | none =>
    rw [he] at h
    exact files_link_eq_some h
  | some g =>
    rw [he] at h
    dsimp only at h
    rw [Function.update_apply] at h
    split_ifs at h
    exact h

end SharedFile
