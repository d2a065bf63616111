import LedgerWire.Calendar.Moment
import LedgerWire.Wire.Codec

/-!
Contract: the conditions under which a balance may be claimed: trees of conjunctions, disjunctions
and negations over deadlines. The wire format can spell trees with the wrong number of branches and
trees of any depth; reading refuses the former and everything nested more than 32 levels below its
root.

Owns:
- `ClaimPredicate`, its wire form and its description;
- `ClaimPredicate.sameBy`, equality up to a way to compare deadlines, and `ClaimPredicate.same`.

Does not own: who claims.
-/

namespace LedgerWire

open Wire

inductive ClaimPredicateKind where
  | unconditional
  | and
  | or
  | not
  | beforeAbsolute
  | beforeRelative
  deriving DecidableEq, Repr

namespace ClaimPredicateKind

def all : List ClaimPredicateKind :=
  [.unconditional, .and, .or, .not, .beforeAbsolute, .beforeRelative]

def number : ClaimPredicateKind → Int
  | .unconditional => 0
  | .and => 1
  | .or => 2
  | .not => 3
  | .beforeAbsolute => 4
  | .beforeRelative => 5

def name : ClaimPredicateKind → String
  | .unconditional => "UNCONDITIONAL"
  | .and => "AND"
  | .or => "OR"
  | .not => "NOT"
  | .beforeAbsolute => "BEFORE_ABSOLUTE_TIME"
  | .beforeRelative => "BEFORE_RELATIVE_TIME"

end ClaimPredicateKind

inductive ClaimPredicate where
  | unconditional
  | and (left right : ClaimPredicate)
  | or (left right : ClaimPredicate)
  | not (inner : ClaimPredicate)
  | beforeAbsolute (deadline : Moment)
  | beforeRelative (span : Span)
  deriving DecidableEq

namespace ClaimPredicate

def kind : ClaimPredicate → ClaimPredicateKind
  | .unconditional => .unconditional
  | .and _ _ => .and
  | .or _ _ => .or
  | .not _ => .not
  | .beforeAbsolute _ => .beforeAbsolute
  | .beforeRelative _ => .beforeRelative

/-- The deadline at a stated time, without the microseconds of its clock. -/
def ofDeadline (t : DateTime) : Except Failure ClaimPredicate :=
  match Moment.ofDateTime? t with
  | some deadline => .ok (.beforeAbsolute deadline)
  | none => .error .timeOutOfRange

/-- The deadline after a length of time, in whole seconds. -/
def ofDuration (duration : Duration) : Except Failure ClaimPredicate :=
  match Span.ofSeconds? duration.wholeSeconds with
  | some span => .ok (.beforeRelative span)
  | none => .error .timeOutOfRange

def describe : ClaimPredicate → String
  | .unconditional => "ClaimPredicate(UNCONDITIONAL, None)"
  | .and left right => s!"ClaimPredicate(AND, ({left.describe}, {right.describe}))"
  | .or left right => s!"ClaimPredicate(OR, ({left.describe}, {right.describe}))"
  | .not inner => s!"ClaimPredicate(NOT, {inner.describe})"
  | .beforeAbsolute deadline => s!"ClaimPredicate(BEFORE_ABSOLUTE_TIME, {deadline.describe})"
  | .beforeRelative span => s!"ClaimPredicate(BEFORE_RELATIVE_TIME, {span.describe})"

/-- Whether two conditions are the same, deadlines compared in a given way. -/
def sameBy (times : TimeRelation) : ClaimPredicate → ClaimPredicate → Bool
  | .unconditional, .unconditional => true
  | .and left right, .and left' right' => left.sameBy times left' && right.sameBy times right'
  | .or left right, .or left' right' => left.sameBy times left' && right.sameBy times right'
  | .not inner, .not inner' => inner.sameBy times inner'
  | .beforeAbsolute deadline, .beforeAbsolute deadline' => times (some deadline) (some deadline')
  | .beforeRelative span, .beforeRelative span' => span == span'
  | _, _ => false

/-- Whether two conditions are the same. -/
def same (a b : ClaimPredicate) : Bool := a.sameBy Moment.sameIfAny b

def depth : ClaimPredicate → Nat
  | .and left right => max left.depth right.depth + 1
  | .or left right => max left.depth right.depth + 1
  | .not inner => inner.depth + 1
  | _ => 0

/-! ### The wire form -/

def maxDepth : Nat := 32

/-- A failure of the tree rather than of the format, in the given words. -/
def malformed (message : String) (cause : Option String) : Failure :=
  .fault (Fault.of .claimPredicate message [] cause)

def write : ClaimPredicate → Output
  | .unconditional => Codec.int32.write 0
  | .and left right =>
    Codec.int32.write 1 ++ (Codec.uint32.write 2 ++ (left.write ++ right.write))
  | .or left right =>
    Codec.int32.write 2 ++ (Codec.uint32.write 2 ++ (left.write ++ right.write))
  | .not inner => Codec.int32.write 3 ++ (Codec.bool.write true ++ inner.write)
  | .beforeAbsolute deadline => Codec.int32.write 4 ++ Codec.int64.write deadline.unix
  | .beforeRelative span => Codec.int32.write 5 ++ Codec.int64.write span.seconds

/-- The time of a deadline on the wire. -/
def deadlineOfUnix (unix : Int) : Except Failure ClaimPredicate :=
  match Moment.ofUnix? unix with
  | some deadline => .ok (.beforeAbsolute deadline)
  | none =>
    .error (malformed s!"claim predicate time out of range: {unix}"
      (some (Moment.rangeMessage unix)))

/-- The length of time of a deadline on the wire. -/
def spanOfSeconds (seconds : Int) : Except Failure ClaimPredicate :=
  match Span.ofSeconds? seconds with
  | some span => .ok (.beforeRelative span)
  | none =>
    .error (malformed s!"claim predicate time out of range: {seconds}"
      (some (Span.rangeMessage seconds)))

/-- The reading of the two branches of a kind that has two. -/
def readPair
    (name : String)
    (branch : Reader ClaimPredicate)
    (join : ClaimPredicate → ClaimPredicate → ClaimPredicate) : Reader ClaimPredicate := do
  let count ← Codec.uint32.read
  if count = 2 then
    let left ← branch
    let right ← branch
    return join left right
  else
    throw (malformed s!"{name} predicate needs 2 children, got {count}" none)

/-- The reading of a condition of which `levels` levels may still be read. -/
def readLevels : (levels : Nat) → Reader ClaimPredicate
  | 0 => throw (malformed "claim predicate nested too deeply" none)
  | levels + 1 => do
    let kind ← Codec.int32.read
    if kind = 0 then
      return .unconditional
    else if kind = 1 then
      readPair "AND" (readLevels levels) .and
    else if kind = 2 then
      readPair "OR" (readLevels levels) .or
    else if kind = 3 then
      if ← Codec.bool.read then
        return .not (← readLevels levels)
      else
        throw (malformed "NOT predicate without child" none)
    else if kind = 4 then
      Reader.ofExcept (deadlineOfUnix (← Codec.int64.read))
    else if kind = 5 then
      Reader.ofExcept (spanOfSeconds (← Codec.int64.read))
    else
      throw (Failure.xdrBecause s!"unknown claim predicate type: {kind}"
        s!"{kind} is not a valid ClaimPredicateType")

/-- The wire form. The root and `maxDepth` levels below it are read. -/
def codec : Codec ClaimPredicate where
  write := write
  read := readLevels (maxDepth + 1)

end ClaimPredicate

end LedgerWire
