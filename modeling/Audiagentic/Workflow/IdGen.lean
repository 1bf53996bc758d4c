import Audiagentic.Foundations.Runs

/-!
# Sequential identifiers from a counter file

`next_id` of `foundation/workflow/id_gen.py` takes an exclusive lock file, reads a counter,
writes the next number over it and returns `prefix-number`.  Any number of processes do this on
one counter file, and each file operation of each of them is a step of its own here.

A lock file is an inode.  A process writes its pid to the inode it created, wherever the path
points by then; readers and removers go by the path.
-/

namespace Audiagentic.Workflow

/-! ## The counter file -/

abbrev Pid := Nat

/-- What reading a text as `int(json.loads(text).get("counter", 0))` gives. -/
inductive Reading where
  | number (value : Int)
  /-- Not JSON, or not a number: `JSONDecodeError` or `ValueError`. -/
  | malformed
  /-- JSON on which another error is raised, such as a list. -/
  | unexpected

inductive CounterFile where
  | missing
  | text (length : Nat) (reading : Reading)

/-- `json.dumps({"counter": n}, indent=2)`. -/
def dumps (value : Int) : String :=
  "\x7b\n  \"counter\": " ++ toString value ++ "\n\x7d"

namespace CounterFile

def empty : CounterFile := .text 0 .malformed

def size : CounterFile → Nat
  | missing => 0
  | text length _ => length

def number? : CounterFile → Option Int
  | text _ (.number value) => some value
  | _ => none

/-- A number written from the start of the file.  A longer text that another process wrote since
the truncation keeps its end, and a JSON text with something after it is malformed. -/
def write (file : CounterFile) (value : Int) : CounterFile :=
  if file.size ≤ (dumps value).length then .text (dumps value).length (.number value)
  else .text file.size .malformed

@[simp] theorem number?_empty : empty.number? = none := rfl

@[simp] theorem number?_write_empty (value : Int) :
    (empty.write value).number? = some value := by
  simp [write, empty, size, number?]

end CounterFile

/-! ## Processes -/

/-- Where a process is.  `inode` is the lock file it created. -/
inductive Stage where
  | dead
  | idle
  /-- About to create the lock file. -/
  | acquiring
  /-- It has created the lock file and not written its pid. -/
  | created (inode : Nat)
  /-- The creation failed, as the file exists. -/
  | contended
  | holderRead (holder : Pid)
  /-- It takes the lock for stale and is about to remove it. -/
  | breaking
  | holding (inode : Nat)
  | counted (inode : Nat) (value : Int)
  /-- It has opened the counter file for writing. -/
  | truncated (inode : Nat) (value : Int)
  | written (inode : Nat) (value : Int)
  /-- An error leaves the critical section. -/
  | failing (inode : Nat)
  /-- It has removed the lock and not returned. -/
  | released (value : Int)
deriving DecidableEq

namespace Stage

/-- The lock file a process created and has not removed or left behind. -/
def inode? : Stage → Option Nat
  | created inode | holding inode | counted inode _ | truncated inode _ | written inode _
  | failing inode => some inode
  | _ => none

/-- The number a process has written and not returned. -/
def claim? : Stage → Option Int
  | written _ value | released value => some value
  | _ => none

/-- The number a process is going to write. -/
def target? : Stage → Option Int
  | counted _ value | truncated _ value => some value
  | _ => none

end Stage

/-- The processes, their files and the identifiers returned so far. -/
structure IdSystem where
  stage : Pid → Stage
  /-- The `id_prefix` of the current call of each process. -/
  idPrefix : Pid → String
  lock : Option Nat
  holder : Nat → Option Pid
  nextInode : Nat
  counter : CounterFile
  returned : List (String × Int)

/-- `_format_id`. -/
def formatId (entry : String × Int) : String :=
  entry.1 ++ "-" ++ toString entry.2

namespace IdSystem

/-- Processes without a call in progress, on any counter file. -/
def init (counter : CounterFile) : IdSystem where
  stage := fun _ => .idle
  idPrefix := fun _ => ""
  lock := none
  holder := fun _ => none
  nextInode := 0
  counter := counter
  returned := []

def move (system : IdSystem) (pid : Pid) (stage : Stage) : IdSystem :=
  { system with stage := Function.update system.stage pid stage }

def pidAlive (system : IdSystem) (pid : Pid) : Bool :=
  system.stage pid ≠ .dead

def proceed (system : IdSystem) (pid : Pid) : IdSystem :=
  match system.stage pid with
  | .dead | .idle => system
  | .acquiring =>
    match system.lock with
    | none =>
      { system.move pid (.created system.nextInode) with
        lock := some system.nextInode
        nextInode := system.nextInode + 1 }
    | some _ => system.move pid .contended
  | .created inode =>
    { system.move pid (.holding inode) with
      holder := Function.update system.holder inode (some pid) }
  | .contended =>
    match system.lock.bind system.holder with
    -- The file is gone, or nothing is in it that `int` takes.
    | none => system.move pid .breaking
    | some holder => system.move pid (.holderRead holder)
  | .holderRead holder =>
    if system.pidAlive holder then system.move pid .acquiring else system.move pid .breaking
  | .breaking => { system.move pid .acquiring with lock := none }
  | .holding inode =>
    match system.counter with
    | .missing | .text _ .malformed => system.move pid (.counted inode 1)
    | .text _ (.number value) => system.move pid (.counted inode (value + 1))
    | .text _ .unexpected => system.move pid (.failing inode)
  | .counted inode value =>
    { system.move pid (.truncated inode value) with counter := .empty }
  | .truncated inode value =>
    { system.move pid (.written inode value) with counter := system.counter.write value }
  | .written _ value => { system.move pid (.released value) with lock := none }
  | .failing _ => { system.move pid .idle with lock := none }
  | .released value =>
    { system.move pid .idle with
      returned := system.returned ++ [(system.idPrefix pid, value)] }

/-- The next file operation of a process fails with `OSError`. -/
def fault (system : IdSystem) (pid : Pid) : IdSystem :=
  match system.stage pid with
  | .dead | .idle | .holderRead _ | .released _ => system
  -- The error leaves `next_id`; what `__enter__` has created stays.
  | .acquiring | .created _ | .breaking | .written _ _ | .failing _ => system.move pid .idle
  | .contended => system.move pid .breaking
  -- `except (json.JSONDecodeError, OSError, ValueError): n = 0`
  | .holding inode => system.move pid (.counted inode 1)
  | .counted inode _ | .truncated inode _ => system.move pid (.failing inode)

/-- `__enter__` gives up at its deadline. -/
def giveUp (system : IdSystem) (pid : Pid) : IdSystem :=
  match system.stage pid with
  | .acquiring => system.move pid .idle
  | _ => system

/-- A call of `next_id`, which refuses an empty prefix. -/
def call (system : IdSystem) (pid : Pid) (idPrefix : String) : IdSystem :=
  match system.stage pid with
  | .idle =>
    if idPrefix = "" then system
    else
      { system.move pid .acquiring with
        idPrefix := Function.update system.idPrefix pid idPrefix }
  | _ => system

def spawn (system : IdSystem) (pid : Pid) : IdSystem :=
  match system.stage pid with
  | .dead => system.move pid .idle
  | _ => system

end IdSystem

/-- What happens next, and to which process. -/
inductive IdAction where
  | call (pid : Pid) (idPrefix : String)
  | proceed (pid : Pid)
  | fault (pid : Pid)
  | giveUp (pid : Pid)
  | die (pid : Pid)
  | spawn (pid : Pid)

def IdSystem.step (system : IdSystem) : IdAction → IdSystem
  | .call pid idPrefix => system.call pid idPrefix
  | .proceed pid => system.proceed pid
  | .fault pid => system.fault pid
  | .giveUp pid => system.giveUp pid
  | .die pid => system.move pid .dead
  | .spawn pid => system.spawn pid

end Audiagentic.Workflow
