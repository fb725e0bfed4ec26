import Notekeeper.Editor.Program.Result
import Notekeeper.Editor.StreamEdit.Script
/-!
# Running a script

A script is run once for each line of a text.  The line stands in a space in which the steps change
it; at the end it is printed, unless the script is quiet.  A last line without a line end is printed
without one, and gets it only if something is printed behind it.
-/

namespace Notekeeper.StreamEdit

open Text

/-! ## 1. States -/

/-- A line, and whether it is ended. -/
structure Line where
  text : List Char
  ended : Bool

/-- The state of a range of lines that has begun. -/
inductive RangeState
  /-- The range goes on to a line.  If that is passed over, a line behind it may still count. -/
  | upTo (line : Nat) (lateCounts : Bool)
  /-- The range goes on to a line that is selected. -/
  | untilSelected
  /-- The range is over, and begins no more. -/
  | closed
  deriving DecidableEq

/-- **The state of a run.** -/
structure State where
  unread : List Line
  /-- The number of the line that was read last. -/
  number : Nat := 0
  space : Line := ⟨[], true⟩
  held : Line := ⟨[], true⟩
  /-- What is printed, in reverse. -/
  printed : List Char := []
  /-- Whether a line end is still missing behind what is printed. -/
  owesEnd : Bool := false
  /-- The texts to be printed at the end of the line. -/
  queue : List (List Char) := []
  replaced : Bool := false
  /-- The ranges that the line is in, by the places of their steps. -/
  ranges : List (Nat × RangeState) := []
  /-- The pattern used last. -/
  lastPattern : Option Pattern := none
  /-- Whether it has only selected lines since. -/
  onlySelected : Bool := false

/-- What a run keeps to. -/
structure RunManner where
  /-- The character at the end of a line. -/
  lineEnd : Char := '\n'
  quiet : Bool := false
  /-- The length at which lists are broken; zero for never. -/
  width : Nat := 70

namespace State

variable (m : RunManner)

/-- A state with a text printed. -/
def emit (s : State) (text : List Char) : State :=
  let before := if s.owesEnd then m.lineEnd :: s.printed else s.printed
  { s with printed := text.reverse ++ before, owesEnd := false }

/-- A state with a line printed. -/
def emitLine (s : State) (l : Line) : State :=
  if l.ended then s.emit m (l.text ++ [m.lineEnd]) else { s.emit m l.text with owesEnd := true }

/-- A state with a text printed at once, which ends like a line. -/
def emitText (s : State) (text : List Char) : State :=
  if text.isEmpty then s else s.emit m (text.dropLast ++ [m.lineEnd])

/-- A state with the line printed, if the script is not quiet. -/
def emitSpace (s : State) : State := if m.quiet then s else s.emitLine m s.space

/-- A state with all printed that was kept for the end of the line. -/
def flush (s : State) : State :=
  { s.queue.foldl (fun s text => s.emit m text) s with queue := [] }

/-- A state with a changed text in the space. -/
def withText (s : State) (text : List Char) : State := { s with space := { s.space with text } }

/-- A state with one more line read, if there is one. -/
def read? (s : State) : Option State :=
  match s.unread with
  | [] => none
  | l :: rest =>
    some { s.flush m with unread := rest, number := s.number + 1, space := l, replaced := false }

/-- Whether a pattern matches the line, and the pattern; an error if none was used before. -/
def pattern (s : State) (p : Option Pattern) : Except Nat Pattern :=
  match p.or s.lastPattern with
  | some p => .ok p
  | none => .error wrongScript

/-! ## 2. Selecting lines -/

/-- Whether an address selects the line. -/
def isAt (s : State) : Address → Except Nat (Bool × State)
  | .line n => .ok (s.number = n, s)
  | .every first gap => .ok (first ≤ s.number && (s.number - first) % gap = 0, s)
  | .last => .ok (s.unread.isEmpty, s)
  | .matching q => do
    let p ← s.pattern q
    let s := match q with
      | some p => { s with lastPattern := some p, onlySelected := true }
      | none => s
    pure ((p.find? m.lineEnd s.space.text.toArray 0).isSome, s)

/-- Whether the line is in a range that it begins, and the state of the range if it goes on behind
the line.  `exact` says whether the line is the one that the range is to begin with, and not one
behind it. -/
def begin (s : State) (exact : Bool) : RangeEnd → Bool × Option RangeState
  | .address (.line n) =>
    if n ≤ s.number then (exact || n = s.number, none) else (true, some (.upTo n false))
  | .address (.every first gap) =>
    (true, if first ≤ s.number ∧ (s.number - first) % gap = 0 then none else some .untilSelected)
  | .address .last => (true, if s.unread.isEmpty then none else some .untilSelected)
  | .address (.matching _) => (true, some .untilSelected)
  | .after count => (true, if count = 0 then none else some (.upTo (s.number + count) true))
  | .multiple n =>
    (true, if n = 0 then none else some (.upTo (s.number + n - s.number % n) true))

/-- A state in which a range has another state. -/
def withRange (s : State) (place : Nat) (r : Option RangeState) : State :=
  let others := s.ranges.filter (·.1 ≠ place)
  { s with ranges := match r with
      | some r => (place, r) :: others
      | none => others }

/-- The range that the line is in, for the step at a place. -/
def range? (s : State) (place : Nat) : Option RangeState :=
  (s.ranges.find? (·.1 = place)).map (·.2)

/-- Whether the line begins a range, and whether as the line that the range is to begin with.  A
range from a numbered line may begin behind it, but only once. -/
def begins (s : State) : Address → Except Nat (Bool × Bool × State)
  | .line n => .ok (n ≤ s.number, n = s.number, s)
  | a => (s.isAt m a).map fun (isAt, s) => (isAt, isAt, s)

/-- The state of a range that is over: it may begin again unless it began with a numbered line. -/
def finished : Address → Option RangeState
  | .line _ => some .closed
  | _ => none

/-- **Whether a step at a place is for the line.** -/
def selects (s : State) (place : Nat) (sel : Selection) : Except Nat (Bool × State) := do
  let (isFor, s) ← match sel.first, sel.upTo with
    | none, _ => pure (true, s)
    | some a, none => s.isAt m a
    | some a, some e =>
      match s.range? place, e with
      | some .closed, _ => pure (false, s)
      | some (.upTo n lateCounts), _ =>
        let s := if s.number < n then s else s.withRange place (finished a)
        pure (lateCounts || s.number ≤ n, s)
      | some .untilSelected, .address e =>
        let (ends, s) ← s.isAt m e
        pure (true, if ends then s.withRange place (finished a) else s)
      | some .untilSelected, _ => pure (true, s)
      | none, e =>
        let (begins, exact, s) ← s.begins m a
        if begins then
          let (isFor, r) := s.begin exact e
          pure (isFor, s.withRange place (r.or (finished a)))
        else pure (false, s)
  pure (isFor != sel.negated, s)

/-- Whether the range of a step at a place goes on behind the line. -/
def isInRange (s : State) (place : Nat) : Bool :=
  match s.range? place with
  | none | some .closed => false
  | some _ => true

/-! ## 3. Steps -/

/-- A character in a list of a line. -/
def listed (c : Char) : List Char :=
  match c with
  | '\\' => ['\\', '\\']
  | '\x07' => ['\\', 'a']
  | '\x08' => ['\\', 'b']
  | '\x0c' => ['\\', 'f']
  | '\n' => ['\\', 'n']
  | '\r' => ['\\', 'r']
  | '\t' => ['\\', 't']
  | '\x0b' => ['\\', 'v']
  | c =>
    let n := c.toNat
    if 32 ≤ n ∧ n < 127 then [c]
    else '\\' :: [n / 64, n / 8 % 8, n % 8].map fun d => Char.ofNat (48 + d)

/-- The list of a line, broken so that no line of it is longer than the width. -/
def listFrom (lineEnd : Char) (width : Nat) : (used : Nat) → List Char → List Char
  | _, [] => ['$', lineEnd]
  | used, c :: rest =>
    let text := listed c
    if 0 < width ∧ width - 1 < used + text.length then
      ['\\', lineEnd] ++ text ++ listFrom lineEnd width text.length rest
    else text ++ listFrom lineEnd width (used + text.length) rest

/-- A state after a substitution.  A pattern that has only selected lines has to have the groups
that are asked for; another one need not. -/
def substitute (s : State) (sub : Substitution) : Except Nat State := do
  let p ← s.pattern sub.pattern
  if sub.pattern.isNone && s.onlySelected && p.groups < highestGroup sub.pieces then
    throw wrongScript
  let s := { s with lastPattern := some p, onlySelected := false }
  match replace p m.lineEnd sub.pieces sub.number sub.all s.space.text with
  | none => pure s
  | some text =>
    let s := { s.withText (if sub.runs then [] else text) with replaced := true }
    pure (if sub.prints then s.emitLine m s.space else s)

/-- Where a run goes on. -/
inductive Following
  | step
  | place (i : Nat)
  /-- At the end of the script. -/
  | finish
  /-- With the next line, without printing this one. -/
  | nextLine
  /-- With the first step, without reading a line. -/
  | again
  | quit (code : Nat)

/-- The place behind the block that is opened before a place.  The fuel bounds the number of
steps. -/
def behindBlock (steps : Array Step) : (fuel : Nat) → (depth i : Nat) → Nat
  | 0, _, i => i
  | fuel + 1, depth, i =>
    match steps[i]?.map Step.action, depth with
    | none, _ => i
    | some .opening, depth => behindBlock steps fuel (depth + 1) (i + 1)
    | some .closing, 0 => i + 1
    | some .closing, depth + 1 => behindBlock steps fuel depth (i + 1)
    | some _, depth => behindBlock steps fuel depth (i + 1)

/-- The place that a name means; the end of the script for the empty name. -/
def placeOf (steps : Array Step) (name : List Char) : Following :=
  if name.isEmpty then .finish
  else match steps.findIdx? fun s => match s.action with
      | .label other => other = name
      | _ => false with
    | some i => .place i
    | none => .finish

/-- **The state after a step** at a place, and where the run goes on. -/
def act (steps : Array Step) (place : Nat) (s : State) (a : Action) :
    Except Nat (State × Following) := do
  let text := s.space.text
  match a with
  | .opening | .closing | .label _ | .nothing => pure (s, .step)
  | .branch c name =>
    match c, s.replaced with
    | .always, _ => pure (s, placeOf steps name)
    | .ifReplaced, true => pure ({ s with replaced := false }, placeOf steps name)
    | .ifReplaced, false => pure (s, .step)
    | .ifNotReplaced, true => pure ({ s with replaced := false }, .step)
    | .ifNotReplaced, false => pure (s, placeOf steps name)
  | .substitute sub => pure (← s.substitute m sub, .step)
  | .translate table =>
    let changed (c : Char) : Char := ((table.find? (·.1 = c)).map (·.2)).getD c
    pure (s.withText (text.map changed), .step)
  | .append more => pure ({ s with queue := s.queue ++ [more] }, .step)
  | .insert more => pure (s.emitText m more, .step)
  | .change more =>
    pure (if s.isInRange place then s else s.emitText m more, .nextLine)
  | .delete => pure (s, .nextLine)
  | .deleteFirst =>
    match text.dropWhile (· ≠ m.lineEnd) with
    | [] => pure (s, .nextLine)
    | _ :: rest => pure (s.withText rest, .again)
  | .print => pure (s.emitLine m s.space, .step)
  | .printFirst =>
    let first := text.takeWhile (· ≠ m.lineEnd)
    pure (s.emitLine m ⟨first, s.space.ended || first.length < text.length⟩, .step)
  | .printNumber => pure (s.emit m (decimal s.number ++ [m.lineEnd]), .step)
  | .printName => pure (s.emit m (Program.notePath.toList ++ ['\n']), .step)
  | .list width => pure (s.emit m (listFrom m.lineEnd (width.getD m.width) 0 text), .step)
  | .next =>
    if s.unread.isEmpty then pure (s, .finish)
    else match (s.emitSpace m).read? m with
      | some s => pure (s, .step)
      | none => pure (s, .finish)
  | .nextMore =>
    match s.read? m with
    | some t => pure (t.withText (text ++ m.lineEnd :: t.space.text), .step)
    | none => pure (s, .finish)
  | .quit code prints =>
    pure (if prints then ((s.emitSpace m).emit m []).flush m else s, .quit code)
  | .hold => pure ({ s with held := s.space }, .step)
  | .holdMore =>
    pure ({ s with held := ⟨s.held.text ++ m.lineEnd :: text, s.space.ended⟩ }, .step)
  | .recall => pure ({ s with space := s.held }, .step)
  | .recallMore =>
    pure ({ s with space := ⟨text ++ m.lineEnd :: s.held.text, s.held.ended⟩ }, .step)
  | .swap => pure ({ s with space := s.held, held := s.space }, .step)
  | .clear => pure (s.withText [], .step)

/-! ## 4. Runs -/

/-- What a run has printed, in reverse, and the exit code if it was told to quit; an error is the
exit code of a run that cannot go on.  The fuel bounds the number of steps. -/
def run (steps : Array Step) :
    (fuel : Nat) → (place : Nat) → State → Except Nat (List Char × Option Nat)
  | 0, _, s => .ok (s.printed, none)
  | fuel + 1, place, s =>
    let nextLine (s : State) : Except Nat (List Char × Option Nat) :=
      match s.read? m with
      | some s => run steps fuel 0 s
      | none => .ok ((s.flush m).printed, none)
    match steps[place]? with
    | none => nextLine (s.emitSpace m)
    | some step =>
      match s.selects m place step.selection with
      | .error code => .error code
      | .ok (true, s) =>
        match s.act m steps place step.action with
        | .error code => .error code
        | .ok (s, .step) => run steps fuel (place + 1) s
        | .ok (s, .place i) => run steps fuel i s
        | .ok (s, .finish) => nextLine (s.emitSpace m)
        | .ok (s, .nextLine) => nextLine s
        | .ok (s, .again) => run steps fuel 0 (s.flush m)
        | .ok (s, .quit code) => .ok (s.printed, some code)
      | .ok (false, s) =>
        match step.action with
        | .opening => run steps fuel (behindBlock steps steps.size 0 (place + 1)) s
        | _ => run steps fuel (place + 1) s

end State

/-- The lines of a text. -/
def linesOf (lineEnd : Char) (line : List Char) : List Char → List Line
  | [] => if line.isEmpty then [] else [⟨line.reverse, false⟩]
  | c :: rest =>
    if c = lineEnd then ⟨line.reverse, true⟩ :: linesOf lineEnd [] rest
    else linesOf lineEnd (c :: line) rest

/-- How many steps a run may take for each character of a text, and at least. -/
def stepsPerCharacter : Nat := 10000

/-- The ranges that are open before the first line. -/
def openRanges (steps : List Step) (i : Nat) : List (Nat × RangeState) :=
  match steps with
  | [] => []
  | s :: rest =>
    match s.selection.first with
    | some (.line 0) => (i, .untilSelected) :: openRanges rest (i + 1)
    | _ => openRanges rest (i + 1)

/-- **A text after a script**, and the exit code if the script quits; an error is the exit code of a
script that cannot go on. -/
def Script.run (script : Script) (m : RunManner) (text : List Char) :
    Except Nat (List Char × Option Nat) := do
  let m := { m with quiet := m.quiet || script.quiet }
  let s : State :=
    { unread := linesOf m.lineEnd [] text, ranges := openRanges script.steps.toList 0 }
  match s.read? m with
  | none => pure ([], none)
  | some s =>
    let (printed, code) ← s.run m script.steps ((text.length + 100) * stepsPerCharacter) 0
    pure (printed.reverse, code)

end Notekeeper.StreamEdit
