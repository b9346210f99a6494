/-!
Cancellation. Handles that are cloned from one another form a family, and cancelling any of them
cancels the family for good. Waiting is lazy: a wait first looks at its family when it is polled.
A family's flag and its wake-ups are two things: cancelling raises the flag, and the first time it
also wakes the waits that are registered.
-/
namespace RemoteSurface

namespace Cancel

/-- How far a wait has come. -/
inductive Stage where
  | unpolled
  | registered (woken : Bool)
  | over
deriving DecidableEq

/-- A wait for the cancellation of a family. -/
structure Wait where
  family : Nat
  stage : Stage := .unpolled
deriving DecidableEq

/-- What polling a wait gives. -/
inductive Poll where
  | pending
  | ready
  | finished
deriving DecidableEq

/-- Every handle with its family, every family with its flag, and every wait. -/
structure World where
  handles : List Nat := [0]
  flags : List Bool := [false]
  waits : List Wait := []
deriving DecidableEq

/-- The world with one handle and nothing cancelled. -/
def World.start : World := {}

/-- A handle of a new family. -/
def fresh (w : World) : World × Nat := ({ w with flags := w.flags ++ [false] }, w.flags.length)

/-- The family of a handle; a handle that was never made is one of a new family at each use. -/
def familyOf (w : World) (handle : Nat) : World × Nat :=
  match w.handles[handle]? with
  | some family => (w, family)
  | none => fresh w

/-- Adds a handle of a family; gives its index. -/
def addHandle (w : World) (family : Nat) : World × Nat :=
  ({ w with handles := w.handles ++ [family] }, w.handles.length)

/-- Makes a handle of a new family. -/
def new (w : World) : World × Nat :=
  let (w, family) := fresh w
  addHandle w family

def clone (w : World) (handle : Nat) : World × Nat :=
  let (w, family) := familyOf w handle
  addHandle w family

def isRaised (w : World) (family : Nat) : Bool := (w.flags[family]?).getD false

/-- Wakes a wait that is registered with a family. -/
def wake (family : Nat) (a : Wait) : Wait :=
  match a.stage with
  | .registered _ => if a.family = family then { a with stage := .registered true } else a
  | _ => a

/-- Raises the flag of a family; the first time, wakes its registered waits. -/
def raise (w : World) (family : Nat) : World :=
  if isRaised w family then w
  else { w with flags := w.flags.set family true, waits := w.waits.map (wake family) }

def check (w : World) (handle : Nat) : World × Bool :=
  let (w, family) := familyOf w handle
  (w, isRaised w family)

/-- Cancels a handle; answers whether it is cancelled now. -/
def cancel (w : World) (handle : Nat) : World × Bool :=
  let (w, family) := familyOf w handle
  check (raise w family) handle

/-- Makes a wait on a handle; gives its index. -/
def wait (w : World) (handle : Nat) : World × Nat :=
  let (w, family) := familyOf w handle
  ({ w with waits := w.waits ++ [{ family := family }] }, w.waits.length)

/-- Polls a wait. The first poll registers it before looking at the flag. -/
def poll (w : World) (index : Nat) : World × Poll :=
  match w.waits[index]? with
  | none => (w, .finished)
  | some a =>
    let moveTo := fun stage => { w with waits := w.waits.set index { a with stage := stage } }
    match a.stage with
    | .over => (w, .finished)
    | .unpolled =>
      if isRaised w a.family then (moveTo .over, .ready)
      else (moveTo (.registered false), .pending)
    | .registered true => (moveTo .over, .ready)
    | .registered false => (w, .pending)

/-- One operation on handles and waits. -/
inductive Op where
  | clone (handle : Nat)
  | new
  | cancel (handle : Nat)
  | check (handle : Nat)
  | wait (handle : Nat)
  | poll (index : Nat)
deriving DecidableEq

/-- What an operation answers. -/
inductive Answer where
  | index (n : Nat)
  | flag (cancelled : Bool)
  | poll (p : Poll)
deriving DecidableEq

def perform (w : World) : Op → World × Answer
  | .clone h => let (w, n) := clone w h; (w, .index n)
  | .new => let (w, n) := new w; (w, .index n)
  | .cancel h => let (w, b) := cancel w h; (w, .flag b)
  | .check h => let (w, b) := check w h; (w, .flag b)
  | .wait h => let (w, n) := wait w h; (w, .index n)
  | .poll i => let (w, p) := poll w i; (w, .poll p)

def performAll (w : World) : List Op → World × List Answer
  | [] => (w, [])
  | op :: rest =>
    let (w, a) := perform w op
    let (w, later) := performAll w rest
    (w, a :: later)

end Cancel

end RemoteSurface
