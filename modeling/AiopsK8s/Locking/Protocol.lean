/-
# The operation lock, step by step

`TargetOperationLock` of `operation_lock.py`: the processes of one host contend for one
target through one lock file.  A process takes one file operation at a time: the exclusive
create, the write of the payload, the reads of `_clear_stale_lock` (the owner, the
modification time, the token once more), and the unlinks.  Between two operations of a
process any other process may run, and a process may die anywhere.

An open file outlives its name: the payload is written to the inode that was created, also
when another process has unlinked the path meanwhile.  A token is the process and a number
of its own, so that two processes never share one.
-/

import Mathlib.Algebra.Order.Ring.Rat
import Mathlib.Logic.Function.Basic
import AiopsK8s.Lib.Steps

namespace AiopsK8s
namespace Locking

/-- A token, unique to a process. -/
abbrev Token : Type := ℕ × ℕ

/-- What `__enter__` writes, as far as it is read back. -/
structure Owner where
  token : Token
  pid : ℤ
  deriving DecidableEq, Repr

/-- A lock file: the process that created it, its payload and `st_mtime`. -/
structure LockFile where
  creator : ℕ
  payload : Option Owner
  modifiedAt : ℚ
  deriving DecidableEq, Repr

/-- Where a process is in the code of the lock.  `first` is `attempt == 0`; the reads of
`_clear_stale_lock` carry what was read before. -/
inductive Phase where
  | idle
  | opening (first : Bool)
  | readingOwner
  | readingTime (owner : Option Owner)
  | judging (owner : Option Owner) (modifiedAt : ℚ)
  | rereading (token : Option Token)
  | clearing
  | writing (inode : ℕ)
  | undoing
  | inside
  | readingToken
  | releasing
  deriving DecidableEq, Repr

/-- The processes and the lock file.  `files` is the table of inodes and `path` the inode
that the path names. -/
structure State where
  clock : ℚ
  files : List LockFile
  path : Option ℕ
  live : List ℕ
  phase : ℕ → Phase
  serial : ℕ → ℕ

/-- What may happen next: a call of `__enter__` or `__exit__`, the next file operation of a
process, a failing write of the payload, a death, a new time. -/
inductive Action where
  | enter (p serial : ℕ)
  | step (p : ℕ)
  | failWrite (p : ℕ)
  | exit (p : ℕ)
  | die (p : ℕ)
  | tick (now : ℚ)
  deriving DecidableEq, Repr

namespace State

variable (s : State)

/-- The file that the path names. -/
def current : Option LockFile := s.path.bind fun i => s.files[i]?

/-- `json.loads(path.read_text())`, where it is readable. -/
def readOwner : Option Owner := s.current.bind LockFile.payload

def setPhase (p : ℕ) (phase : Phase) : State :=
  { s with phase := Function.update s.phase p phase }

def unlink : State := { s with path := none }

/-- `os.open` with `O_CREAT | O_EXCL` where the path is free. -/
def create (p : ℕ) : State :=
  { s with files := s.files ++ [⟨p, none, s.clock⟩], path := some s.files.length }

/-- The write of the payload to an open file. -/
def write (inode : ℕ) (owner : Owner) : State :=
  { s with
    files := s.files.modify inode fun file =>
      { file with payload := some owner, modifiedAt := s.clock } }

/-- The token of a process in its current call. -/
def tokenOf (p : ℕ) : Token := (p, s.serial p)

@[simp] theorem setPhase_path (p : ℕ) (ph : Phase) : (s.setPhase p ph).path = s.path := rfl
@[simp] theorem setPhase_files (p : ℕ) (ph : Phase) : (s.setPhase p ph).files = s.files := rfl
@[simp] theorem setPhase_live (p : ℕ) (ph : Phase) : (s.setPhase p ph).live = s.live := rfl

@[simp] theorem setPhase_self (p : ℕ) (ph : Phase) : (s.setPhase p ph).phase p = ph := by
  simp [setPhase]

theorem setPhase_ne {p q : ℕ} (h : q ≠ p) (ph : Phase) :
    (s.setPhase p ph).phase q = s.phase q := by
  simp [setPhase, h]

end State

section Protocol

variable (pid : ℕ → ℤ) (staleAfter : ℚ)

/-- `_pid_is_running`. -/
def pidIsRunning (live : List ℕ) (n : ℤ) : Bool :=
  decide (0 < n) && live.any fun q => pid q == n

/-- The condition of `_clear_stale_lock`: the owner is a dead process of this host, or the
file names no owner and is old. -/
def isStale (s : State) (owner : Option Owner) (modifiedAt : ℚ) : Bool :=
  match owner with
  | some owner => !pidIsRunning pid s.live owner.pid
  | none => decide (staleAfter ≤ max (s.clock - modifiedAt) 0)

/-- The next file operation of the process `p`. -/
def advance (s : State) (p : ℕ) : Option State :=
  match s.phase p with
  | .idle => none
  | .opening first =>
    match s.path with
    | none => some ((s.create p).setPhase p (.writing s.files.length))
    | some _ => some (s.setPhase p (if first then .readingOwner else .idle))
  | .readingOwner => some (s.setPhase p (.readingTime s.readOwner))
  | .readingTime owner =>
    match s.current, owner with
    | some file, owner => some (s.setPhase p (.judging owner file.modifiedAt))
    -- A failing `stat` after a readable owner is followed by a second one.
    | none, some _ => some (s.setPhase p (.readingTime none))
    | none, none => some (s.setPhase p .idle)
  | .judging owner modifiedAt =>
    if isStale pid staleAfter s owner modifiedAt then
      some (s.setPhase p (.rereading (owner.map Owner.token)))
    else some (s.setPhase p .idle)
  | .rereading token =>
    if s.readOwner.map Owner.token = token then some (s.setPhase p .clearing)
    else some (s.setPhase p .idle)
  | .clearing => some (s.unlink.setPhase p (.opening false))
  | .writing inode => some ((s.write inode ⟨s.tokenOf p, pid p⟩).setPhase p .inside)
  | .undoing => some (s.unlink.setPhase p .idle)
  | .inside => none
  | .readingToken =>
    if s.readOwner.map Owner.token = some (s.tokenOf p) then some (s.setPhase p .releasing)
    else some (s.setPhase p .idle)
  | .releasing => some (s.unlink.setPhase p .idle)

/-- One action of the system. -/
def step (s : State) : Action → Option State
  | .enter p serial =>
    if p ∈ s.live ∧ s.phase p = .idle then
      some ({ s with serial := Function.update s.serial p serial }.setPhase p (.opening true))
    else none
  | .step p => if p ∈ s.live then advance pid staleAfter s p else none
  | .failWrite p =>
    match s.phase p with
    | .writing _ => if p ∈ s.live then some (s.setPhase p .undoing) else none
    | _ => none
  | .exit p =>
    if p ∈ s.live ∧ s.phase p = .inside then some (s.setPhase p .readingToken) else none
  | .die p => some { s with live := s.live.filter (· ≠ p) }
  | .tick now => some { s with clock := now }

end Protocol

/-- No lock file, and every process of the host outside the lock. -/
def State.initial (live : List ℕ) : State :=
  { clock := 0, files := [], path := none, live := live, phase := fun _ => .idle
    serial := fun _ => 0 }

/-- **Mutual exclusion**: at most one live process is between a successful `__enter__` and
its `__exit__`. -/
def Exclusive (s : State) : Prop :=
  ∀ p q, p ∈ s.live → q ∈ s.live → s.phase p = .inside → s.phase q = .inside → p = q

end Locking
end AiopsK8s
