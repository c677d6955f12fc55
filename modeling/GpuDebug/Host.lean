import GpuDebug.Breakpoint.Listing

/-!
# The host debugger

The host stores the breakpoints, evaluates expressions in the debugged program, selects threads
and shows notices.

* `BreakpointTable`: breakpoints by number, in ascending order;
* `Host`: the table, and logs of everything that the host was asked to do.
-/

namespace GpuDebug

/-- Breakpoints by number, in ascending order. -/
structure BreakpointTable where
  entries : List Breakpoint
  deriving DecidableEq, Repr

namespace BreakpointTable

def empty : BreakpointTable := ⟨[]⟩

instance : Inhabited BreakpointTable := ⟨empty⟩

/-- The breakpoint of a number. -/
def get? (t : BreakpointTable) (number : Int32) : Option Breakpoint :=
  t.entries.find? (·.number == number)

/-- The numbers of all breakpoints, in ascending order. -/
def numbers (t : BreakpointTable) : List Int32 :=
  t.entries.map (·.number)

/-- Puts a breakpoint into an ascending list, in place of one with its number. -/
def insertIn (b : Breakpoint) : List Breakpoint → List Breakpoint
  | [] => [b]
  | c :: cs =>
    if b.number < c.number then b :: c :: cs
    else if b.number = c.number then b :: cs
    else c :: insertIn b cs

/-- Adds a breakpoint, in place of one with its number. -/
def insert (t : BreakpointTable) (b : Breakpoint) : BreakpointTable :=
  ⟨insertIn b t.entries⟩

/-- Removes the breakpoint of a number. -/
def erase (t : BreakpointTable) (number : Int32) : BreakpointTable :=
  ⟨t.entries.filter (·.number != number)⟩

/-- Changes the breakpoint of a number, if there is one. -/
def modify (t : BreakpointTable) (number : Int32) (f : Breakpoint → Breakpoint) :
    BreakpointTable :=
  ⟨t.entries.map fun b => if b.number = number then f b else b⟩

end BreakpointTable

/-- The host debugger. -/
structure Host where
  breakpoints : BreakpointTable
  /-- The numbers of breakpoints that were reported as changed, in order. -/
  modified : List Int32
  /-- The expressions that were evaluated, in order. -/
  expressions : List String
  /-- The lines shown to the user, in order. -/
  notices : List String
  threads : List Int32
  selectedThread : Option Int32
  /-- Set while the debugged program cannot evaluate expressions. -/
  evaluationFails : Bool
  deriving DecidableEq, Repr

namespace Host

def empty : Host where
  breakpoints := BreakpointTable.empty
  modified := []
  expressions := []
  notices := []
  threads := []
  selectedThread := none
  evaluationFails := false

instance : Inhabited Host := ⟨empty⟩

/-- Stores a new breakpoint for a request. -/
def add (h : Host) (r : Request) : Host :=
  { h with breakpoints := h.breakpoints.insert (Breakpoint.ofRequest r) }

/-- Shows a line to the user. -/
def display (h : Host) (line : String) : Host :=
  { h with notices := h.notices ++ [line] }

/-- Changes a breakpoint and reports the change; a number without a breakpoint is passed over. -/
def update (h : Host) (number : Int32) (f : Breakpoint → Breakpoint) : Host :=
  match h.breakpoints.get? number with
  | some _ =>
    { h with
      breakpoints := h.breakpoints.modify number f
      modified := h.modified ++ [number] }
  | none => h

/-- Evaluates an expression in the debugged program. -/
def evaluate (h : Host) (expression : String) : Except Error Host :=
  if h.evaluationFails then .error (.internal "evaluation failed")
  else .ok { h with expressions := h.expressions ++ [expression] }

/-- Selects a thread, and says whether it exists. -/
def select (h : Host) (thread : Int32) : Bool × Host :=
  if h.threads.contains thread then (true, { h with selectedThread := some thread })
  else (false, h)

end Host

end GpuDebug
