import GpuDebug.Dim.Argument
import GpuDebug.Wave

/-!
# Focus

The focus is the work-item that the user looks at.

* `Focus`: a work-group and a work-item of it;
* `Focus.move`: moves the focus, if the target executes;
* `Focus.parse`: the coordinates in the arguments of the focus command.

While the focus is unknown the first target is taken as given, because the waves may not be
published yet; after that a target has to be a lane that executes.
-/

namespace GpuDebug

/-- What came of a move. -/
inductive FocusChange
  /-- The focus was unknown and was taken as given. -/
  | bootstrapped
  | changed
  | unchanged
  /-- No lane executes at the target. -/
  | rejected
  deriving DecidableEq, Repr, Inhabited

namespace FocusChange

def name : FocusChange → String
  | bootstrapped => "Bootstrapped"
  | changed => "Changed"
  | unchanged => "Unchanged"
  | rejected => "Rejected"

/-- Whether the user is told. -/
def isVisible : FocusChange → Bool
  | bootstrapped | changed => true
  | unchanged | rejected => false

end FocusChange

/-- The work-item that the user looks at. -/
structure Focus where
  workGroup : Dim
  workItem : Dim
  deriving DecidableEq, Repr

namespace Focus

/-- No focus. -/
def unknown : Focus := ⟨Dim.unknown, Dim.unknown⟩

instance : Inhabited Focus := ⟨unknown⟩

def isUnknown (f : Focus) : Bool :=
  f.workGroup.isUnknown || f.workItem.isUnknown

/-- Moves the focus to a target among the live waves. -/
def move (f target : Focus) (waves : List Wave) : FocusChange × Focus :=
  if f.isUnknown then (.bootstrapped, target)
  else if !Wave.isActive waves target.workGroup target.workItem then (.rejected, f)
  else if f = target then (.unchanged, f)
  else (.changed, target)

/-- The wave with the lane in focus. -/
def wave? (f : Focus) (waves : List Wave) : Option Wave :=
  waves.find? (·.hasActiveLane f.workGroup f.workItem)

/-- The line that announces the focus. -/
def announcement (f : Focus) : String :=
  s!"Switching to work-group ({f.workGroup}) and work-item ({f.workItem})"

/-- The fewest bytes of a text with one coordinate. -/
def shortest : Nat := 8

/-- The coordinates in the arguments of the focus command. -/
def parse (arguments : String) : Except Error Focus := do
  if (Utf8.encode (Text.trim arguments.toList)).length < shortest then
    throw (.focusText s!"\"{arguments}\" is too short")
  match Dim.argument? arguments "wg", Dim.argument? arguments "wi" with
  | none, _ => throw (.focusText "missing wg:x,y,z")
  | some _, none => throw (.focusText "missing wi:x,y,z")
  | some workGroup, some workItem => return ⟨workGroup, workItem⟩

end Focus

end GpuDebug
