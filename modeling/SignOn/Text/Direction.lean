import SignOn.Text.Mark
import SignOn.Text.Quoted

/-!
# Writing direction

Which way a code point is written, and whether a label reads the same way on its own as among
others: a label with anything that is written from right to left has to begin with a letter, keep
to its direction, end in a letter or a number, and not mix two kinds of numbers.
-/

namespace SignOn

inductive Direction where
  | left
  | right
  | arabic
  | arabicNumber
  | number
  | separator
  | neutral
  | boundary
  | nonspacing
  deriving DecidableEq, Repr

/-- Runs of code points of a host name that are no letters written from left to right. -/
def directionRuns : Array (Nat × Nat × Direction) := #[
  (0x2D, 0x2D, .separator), (0x30, 0x39, .number), (0xB7, 0xB7, .neutral),
  (0x2B9, 0x2BA, .neutral), (0x2C6, 0x2CF, .neutral), (0x2EC, 0x2EC, .neutral),
  (0x375, 0x375, .neutral), (0x5D0, 0x5F4, .right), (0x620, 0x64A, .arabic),
  (0x660, 0x669, .arabicNumber), (0x66E, 0x66F, .arabic), (0x671, 0x6D5, .arabic),
  (0x6E5, 0x6E6, .arabic), (0x6EE, 0x6EF, .arabic), (0x6F0, 0x6F9, .number),
  (0x6FA, 0x710, .arabic), (0x712, 0x72F, .arabic), (0x74D, 0x7A5, .arabic),
  (0x7B1, 0x7B1, .arabic), (0x7C0, 0x7EA, .right), (0x7F4, 0x7F5, .right),
  (0x800, 0x815, .right), (0x81A, 0x81A, .right), (0x824, 0x824, .right), (0x828, 0x828, .right),
  (0x840, 0x858, .right), (0x860, 0x88E, .arabic), (0x8A0, 0x8C9, .arabic),
  (0x200C, 0x200D, .boundary), (0x2E2F, 0x2E2F, .neutral), (0x30FB, 0x30FB, .neutral),
  (0xA67F, 0xA67F, .neutral), (0xA717, 0xA71F, .neutral), (0xA788, 0xA788, .neutral),
  (0xFE73, 0xFE73, .arabic), (0x10800, 0x10A00, .right), (0x10A10, 0x10A35, .right),
  (0x10A60, 0x10AE4, .right), (0x10B00, 0x10CF2, .right), (0x10D00, 0x10D23, .arabic),
  (0x10D30, 0x10D39, .arabicNumber), (0x10E80, 0x10EA9, .right), (0x10EB0, 0x10F27, .right),
  (0x10F30, 0x10F45, .arabic), (0x10F70, 0x10F81, .right), (0x10FB0, 0x10FF6, .right),
  (0x1E800, 0x1E8C4, .right), (0x1E922, 0x1E943, .right), (0x1E94B, 0x1E959, .right)
]

def CodePoint.direction (c : CodePoint) : Direction :=
  match directionRuns.find? fun (first, last, _) => first ≤ c.val && c.val ≤ last with
  | some (_, _, direction) => direction
  | none => if c.isNonspacing then .nonspacing else .left

namespace Direction

def isBackward : Direction → Bool
  | .right | .arabic | .arabicNumber => true
  | _ => false

/-- Whether a label that begins with such a code point runs backward; a label can begin with a
letter only. -/
def leads? : Direction → Option Bool
  | .right | .arabic => some true
  | .left => some false
  | _ => none

def fits (backward : Bool) : Direction → Bool
  | .left => !backward
  | .right | .arabic | .arabicNumber => backward
  | _ => true

def ends (backward : Bool) : Direction → Bool
  | .left => !backward
  | .right | .arabic | .arabicNumber => backward
  | .number => true
  | _ => false

def last? (directions : List Direction) : Option Direction :=
  directions.reverse.find? (· ≠ .nonspacing)

inductive Fault where
  | first (label : Text)
  | place (position : Nat) (backward : Bool)
  | numbers
  | last
  deriving DecidableEq, Repr

def Fault.message : Fault → Text
  | .first label =>
      "First codepoint in label " ++ label.quoted ++ " must be directionality L, R or AL"
  | .place position backward =>
      "Invalid direction for codepoint at position " ++ Text.ofNat position ++ " in a " ++
        (if backward then Text.ofString "right-to-left" else Text.ofString "left-to-right") ++
        " label"
  | .numbers => "Can not mix numeral types in a right-to-left label"
  | .last => "Label ends with illegal codepoint directionality"

/-- The first direction that does not fit, be it a number of a second kind; `kind` is that of
the numbers before. -/
def misfit? (backward : Bool) : (position : Nat) → (kind : Option Direction) →
    List Direction → Option Fault
  | _, _, [] => none
  | position, kind, d :: rest =>
      if !fits backward d then some (.place position backward)
      else if backward && (d = .number || d = .arabicNumber) then
        if kind.all (· = d) then misfit? backward (position + 1) (some d) rest else some .numbers
      else misfit? backward (position + 1) kind rest

end Direction

def Text.directionFault? (t : Text) : Option Direction.Fault :=
  let directions := t.map CodePoint.direction
  if !directions.any Direction.isBackward then none
  else
    match directions.head?.bind Direction.leads? with
    | none => some (.first t)
    | some backward =>
        (Direction.misfit? backward 1 none directions).or
          (if (Direction.last? directions).any (Direction.ends backward) then none else some .last)

end SignOn
