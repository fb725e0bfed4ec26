import Notekeeper.Editor.Program.Place
import Notekeeper.Editor.StreamEdit.PatternText
import Notekeeper.Editor.StreamEdit.Replacement
/-!
# Scripts

A script is a list of steps.  A step is done for the lines that it selects, and blocks of steps
stand between a step that opens and one that closes them.
-/

namespace Notekeeper.StreamEdit

open Text

/-! ## 1. Steps -/

/-- What selects lines.  A pattern that is left out is the one used last. -/
inductive Address
  | line (n : Nat)
  /-- A line and every so many after it. -/
  | every (first gap : Nat)
  | last
  | matching (p : Option Pattern)

/-- Where a range of lines ends. -/
inductive RangeEnd
  | address (a : Address)
  /-- So many lines later. -/
  | after (count : Nat)
  /-- At the next line whose number is a multiple. -/
  | multiple (n : Nat)

/-- Which lines a step is for. -/
structure Selection where
  first : Option Address := none
  upTo : Option RangeEnd := none
  negated : Bool := false

/-- When a step goes on elsewhere. -/
inductive Condition
  | always
  | ifReplaced
  | ifNotReplaced
  deriving DecidableEq

/-- A substitution. -/
structure Substitution where
  pattern : Option Pattern
  pieces : List Piece
  number : Nat := 1
  all : Bool := false
  prints : Bool := false
  /-- Whether the result is run as a command, of which nothing comes here. -/
  runs : Bool := false

/-- **What a step does.** -/
inductive Action
  | opening
  | closing
  | label (name : List Char)
  | branch (c : Condition) (name : List Char)
  | substitute (s : Substitution)
  | translate (table : List (Char × Char))
  | append (text : List Char)
  | insert (text : List Char)
  | change (text : List Char)
  | delete
  | deleteFirst
  | print
  | printFirst
  | printNumber
  | printName
  | list (width : Option Nat)
  | next
  | nextMore
  | quit (code : Nat) (prints : Bool)
  | hold
  | holdMore
  | recall
  | recallMore
  | swap
  | clear
  /-- Something that concerns other files only. -/
  | nothing

/-- One step. -/
structure Step where
  selection : Selection
  action : Action

/-- **A script**, and whether lines are printed only when it says so. -/
structure Script where
  steps : Array Step
  quiet : Bool

/-! ## 2. Small parts -/

/-- What a reader of scripts keeps to. -/
structure ScriptManner where
  dialect : Dialect
  /-- Whether other files and commands are out of reach. -/
  sandboxed : Bool

/-- Whether a character only keeps steps apart. -/
def isGap (c : Char) : Bool := c = ' ' || ('\t' ≤ c && c ≤ '\r')

/-- A text without the blanks in front. -/
def skipBlanks (cs : List Char) : List Char := cs.dropWhile fun c => c = ' ' || c = '\t'

/-- The number in front of a text, zero if there is none, and what follows. -/
def readNumber (cs : List Char) : Nat × List Char :=
  let (ds, rest) := takeDigits cs.length cs
  ((digits? 10 ds).getD 0, rest)

/-- What follows the end of a step; a closing brace and a comment may follow at once. -/
def readEnd (cs : List Char) : Except Nat (List Char) :=
  match skipBlanks cs with
  | [] => .ok []
  | c :: rest =>
    if c = '}' ∨ c = '#' then .ok (c :: rest)
    else if c = '\n' ∨ c = ';' then .ok rest
    else .error wrongScript

/-- The rest of a line, and what follows it. -/
def readLine (cs : List Char) : List Char × List Char :=
  (cs.takeWhile (· ≠ '\n'), (cs.dropWhile (· ≠ '\n')).drop 1)

/-- The name of a place in the script, and what follows. -/
def readName (cs : List Char) : List Char × List Char :=
  let ends (c : Char) : Bool := isGap c || c = ';' || c = '}'
  let cs := skipBlanks cs
  (cs.takeWhile (!ends ·), cs.dropWhile (!ends ·))

/-- A text up to a mark. -/
def readToMark (mark : Char) (inPattern : Bool) (cs : List Char) :
    Except Nat (List Char × List Char) :=
  match upToMark mark inPattern (cs.length + 1) cs with
  | some r => .ok r
  | none => .error wrongScript

/-- The pattern that a text writes, with some groups at least; an empty text, which cannot be given
flags, is the one used last. -/
def readPattern? (m : ScriptManner) (ignoreCase manyLines : Bool) (groups : Nat)
    (text : List Char) : Except Nat (Option Pattern) :=
  if text.isEmpty then if ignoreCase || manyLines then .error wrongScript else .ok none
  else (readPattern { dialect := m.dialect, ignoreCase, manyLines } groups text).map some

/-- The flags of a pattern in an address. -/
def readAddressFlags (ignoreCase manyLines : Bool) : List Char → Bool × Bool × List Char
  | 'I' :: rest => readAddressFlags true manyLines rest
  | 'M' :: rest => readAddressFlags ignoreCase true rest
  | ' ' :: rest | '\t' :: rest => readAddressFlags ignoreCase manyLines rest
  | rest => (ignoreCase, manyLines, rest)

/-- The address in front of a text, and what follows.  A sign that only the end of a range can have
is passed over with a zero, and selects all lines. -/
def readAddress (m : ScriptManner) (cs : List Char) : Except Nat (Option Address × List Char) := do
  let pattern (mark : Char) (cs : List Char) : Except Nat (Option Address × List Char) := do
    let (text, rest) ← readToMark mark true cs
    let (ignoreCase, manyLines, rest) := readAddressFlags false false rest
    pure (some (.matching (← readPattern? m ignoreCase manyLines 0 text)), rest)
  match cs with
  | '/' :: rest => pattern '/' rest
  | '\\' :: mark :: rest => pattern mark rest
  | '\\' :: [] => throw wrongScript
  | '$' :: rest => pure (some .last, rest)
  | c :: _ =>
    if isDecimal c then
      let (n, rest) := readNumber cs
      match skipBlanks rest with
      | '~' :: rest =>
        let (gap, rest) := readNumber (skipBlanks rest)
        pure (some (if gap = 0 then .line n else .every n gap), rest)
      | rest => pure (some (.line n), rest)
    else if c = '+' ∨ c = '~' then
      let (n, rest) := readNumber (skipBlanks (cs.drop 1))
      if n = 0 then pure (some (.every 0 1), rest) else throw wrongScript
    else pure (none, cs)
  | [] => pure (none, [])

/-- The end of a range, and what follows. -/
def readRangeEnd (m : ScriptManner) (cs : List Char) : Except Nat (RangeEnd × List Char) := do
  match cs with
  | '+' :: rest =>
    let (n, rest) := readNumber (skipBlanks rest)
    pure (.after n, rest)
  | '~' :: rest =>
    let (n, rest) := readNumber (skipBlanks rest)
    pure (.multiple n, rest)
  | cs =>
    match ← readAddress m cs with
    | (some a, rest) => pure (.address a, rest)
    | (none, _) => throw wrongScript

/-- Whether a selection begins before the first line, as only a range that ends at a pattern can,
and a step that reads a file. -/
def Selection.isBeforeAll (s : Selection) : Bool :=
  match s.first, s.upTo with
  | some (.line 0), some (.address (.matching _)) => false
  | some (.line 0), _ => true
  | _, _ => false

/-- The selection in front of a step, and what follows. -/
def readSelection (m : ScriptManner) (cs : List Char) : Except Nat (Selection × List Char) := do
  let (first, cs) ← readAddress m cs
  let (upTo, cs) ← match first, skipBlanks cs with
    | some _, ',' :: rest =>
      let (e, rest) ← readRangeEnd m (skipBlanks rest)
      pure (some e, skipBlanks rest)
    | _, cs => pure (none, cs)
  match cs with
  | '!' :: rest =>
    let rest := skipBlanks rest
    if rest.head? = some '!' then throw wrongScript
    pure ({ first, upTo, negated := true }, rest)
  | cs => pure ({ first, upTo }, cs)

/-! ## 3. Substitutions -/

/-- Whether a file that a script writes to can be opened, which it is at once. -/
def checkTarget (m : ScriptManner) (name : List Char) : Except Nat Unit :=
  let path := String.ofList name
  if m.sandboxed ∨ name.isEmpty then .error wrongScript
  else if path = "/dev/stdout" ∨ path = "/dev/stderr" ∨ Program.isWritable path then .ok ()
  else .error noWayOn

/-- The flags of a substitution. -/
structure Flags where
  all : Bool := false
  prints : Bool := false
  runs : Bool := false
  ignoreCase : Bool := false
  manyLines : Bool := false
  number : Option Nat := none

/-- The flags of a substitution, and what follows the step.  The fuel bounds the length. -/
def readFlags (m : ScriptManner) :
    (fuel : Nat) → Flags → List Char → Except Nat (Flags × List Char)
  | 0, _, _ => .error wrongScript
  | _ + 1, f, [] => .ok (f, [])
  | fuel + 1, f, c :: rest =>
    match c with
    | 'i' | 'I' => readFlags m fuel { f with ignoreCase := true } rest
    | 'm' | 'M' => readFlags m fuel { f with manyLines := true } rest
    | 'e' =>
      if m.sandboxed then .error wrongScript else readFlags m fuel { f with runs := true } rest
    | 'p' =>
      if f.prints then .error wrongScript else readFlags m fuel { f with prints := true } rest
    | 'g' => if f.all then .error wrongScript else readFlags m fuel { f with all := true } rest
    | 'w' => do
      let (name, rest) := readLine (skipBlanks rest)
      checkTarget m name
      pure (f, rest)
    | '}' | '#' => .ok (f, c :: rest)
    | '\n' | ';' => .ok (f, rest)
    | c =>
      if isDecimal c then
        let (n, rest) := readNumber (c :: rest)
        if f.number.isSome ∨ n = 0 then .error wrongScript
        else readFlags m fuel { f with number := some n } rest
      else if isGap c then readFlags m fuel f rest
      else .error wrongScript

/-- A substitution from its mark on, and what follows the step. -/
def readSubstitution (m : ScriptManner) : List Char → Except Nat (Substitution × List Char)
  | [] => .error wrongScript
  | mark :: cs => do
    let (pattern, cs) ← readToMark mark true cs
    let (text, cs) ← readToMark mark false cs
    let pieces ← readReplacement text
    let (f, cs) ← readFlags m (cs.length + 1) {} cs
    let pattern ← readPattern? m f.ignoreCase f.manyLines (highestGroup pieces) pattern
    pure ({ pattern, pieces, number := f.number.getD 1, all := f.all, prints := f.prints,
            runs := f.runs }, cs)

/-- A table of characters from its mark on, and what follows.  Of two entries for one character the
later one counts. -/
def readTable : List Char → Except Nat (List (Char × Char) × List Char)
  | [] => .error wrongScript
  | mark :: cs => do
    let (keys, cs) ← readToMark mark false cs
    let (values, cs) ← readToMark mark false cs
    let keys := withoutBackslashes (← unescaped false keys)
    let values := withoutBackslashes (← unescaped false values)
    if keys.length ≠ values.length then throw wrongScript
    pure ((keys.zip values).reverse, ← readEnd cs)

/-! ## 4. Scripts in writing -/

/-- A script that is being read. -/
structure Draft where
  /-- The steps, the last one first. -/
  steps : List Step := []
  /-- The number of open blocks. -/
  depth : Nat := 0
  /-- A step whose text goes on in the next part of the script. -/
  unfinished : Option ((List Char → Action) × Selection × List Char) := none
  quiet : Bool := false

/-- A draft with one more step. -/
def Draft.push (d : Draft) (selection : Selection) (action : Action) : Draft :=
  { d with steps := ⟨selection, action⟩ :: d.steps }

/-- A draft with a step whose text is complete. -/
def Draft.pushText (d : Draft) (action : List Char → Action) (selection : Selection)
    (text : List Char) : Except Nat Draft := do
  let text := withoutBackslashes (← unescaped false text)
  pure ({ d with unfinished := none }.push selection (action text))

/-- The text of a step up to the end of its line, what follows, and whether it goes on in the next
part, as it does behind a backslash.  A line end behind a backslash is part of the text. -/
def cutText : List Char → List Char × List Char × Bool
  | [] => (['\n'], [], false)
  | '\n' :: rest => (['\n'], rest, false)
  | ['\\'] => (['\n'], [], true)
  | '\\' :: c :: rest =>
    let (text, after, goesOn) := cutText rest
    ('\\' :: c :: text, after, goesOn)
  | c :: rest =>
    let (text, after, goesOn) := cutText rest
    (c :: text, after, goesOn)

/-- A draft with a step that has a text, and what follows it. -/
def Draft.readText (d : Draft) (action : List Char → Action) (selection : Selection)
    (before cs : List Char) : Except Nat (Draft × List Char) := do
  let (text, rest, goesOn) := cutText cs
  if goesOn then pure ({ d with unfinished := some (action, selection, before ++ text) }, rest)
  else pure (← d.pushText action selection (before ++ text), rest)

/-- A draft with the step of a letter that is followed by nothing. -/
def plainAction? : Char → Option Action
  | '=' => some .printNumber
  | 'd' => some .delete
  | 'D' => some .deleteFirst
  | 'F' => some .printName
  | 'g' => some .recall
  | 'G' => some .recallMore
  | 'h' => some .hold
  | 'H' => some .holdMore
  | 'n' => some .next
  | 'N' => some .nextMore
  | 'p' => some .print
  | 'P' => some .printFirst
  | 'x' => some .swap
  | 'z' => some .clear
  | _ => none

/-- The step of a letter that is followed by a text. -/
def textAction? : Char → Option (List Char → Action)
  | 'a' => some .append
  | 'i' => some .insert
  | 'c' => some .change
  | _ => none

/-- The condition of a letter that goes on elsewhere. -/
def condition? : Char → Option Condition
  | 'b' => some .always
  | 't' => some .ifReplaced
  | 'T' => some .ifNotReplaced
  | _ => none

/-- A number that may follow a letter, and what follows the step. -/
def readOptionalNumber (cs : List Char) : Except Nat (Option Nat × List Char) := do
  match skipBlanks cs with
  | c :: rest =>
    if isDecimal c then
      let (n, rest) := readNumber (c :: rest)
      pure (some n, ← readEnd rest)
    else pure (none, ← readEnd (c :: rest))
  | [] => pure (none, [])

/-- The newest version whose scripts are understood. -/
def newestVersion : List Nat := [4, 9]

/-- A draft with one more step, and what follows it. -/
def Draft.readStep (m : ScriptManner) (d : Draft) (cs : List Char) :
    Except Nat (Draft × List Char) := do
  let (selection, cs) ← readSelection m cs
  match cs with
  | [] => throw wrongScript
  | letter :: rest =>
    let fits := letter = 'r' ∧ selection.upTo.isNone ∧ !selection.negated
    if selection.isBeforeAll ∧ !fits then throw wrongScript
    match plainAction? letter, textAction? letter, condition? letter with
    | some action, _, _ => pure (d.push selection action, ← readEnd rest)
    | none, some action, _ =>
      match skipBlanks rest with
      | [] => throw wrongScript
      | ['\\'] => pure ({ d with unfinished := some (action, selection, []) }, [])
      | '\\' :: '\n' :: rest => d.readText action selection [] rest
      | '\\' :: c :: rest => d.readText action selection [c] rest
      | rest => d.readText action selection [] rest
    | none, none, some c =>
      let (name, rest) := readName rest
      pure (d.push selection (.branch c name), rest)
    | none, none, none =>
      match letter with
      | '{' => pure ({ d.push selection .opening with depth := d.depth + 1 }, rest)
      | '}' =>
        if d.depth = 0 ∨ selection.first.isSome then throw wrongScript
        pure ({ d.push selection .closing with depth := d.depth - 1 }, ← readEnd rest)
      | '#' =>
        if selection.first.isSome then throw wrongScript
        pure (d, (readLine rest).2)
      | ':' =>
        let (name, rest) := readName rest
        if selection.first.isSome ∨ name.isEmpty then throw wrongScript
        pure (d.push selection (.label name), ← readEnd rest)
      | 's' =>
        let (s, rest) ← readSubstitution m rest
        pure (d.push selection (.substitute s), rest)
      | 'y' =>
        let (table, rest) ← readTable rest
        pure (d.push selection (.translate table), rest)
      | 'q' | 'Q' =>
        if selection.upTo.isSome then throw wrongScript
        let (code, rest) ← readOptionalNumber rest
        pure (d.push selection (.quit (code.getD 0 % 256) (letter = 'q')), rest)
      | 'l' =>
        let (width, rest) ← readOptionalNumber rest
        pure (d.push selection (.list width), rest)
      | 'r' | 'R' =>
        let (name, rest) := readLine (skipBlanks rest)
        if m.sandboxed ∨ name.isEmpty then throw wrongScript
        pure (d.push selection (if letter = 'r' then .append [] else .nothing), rest)
      | 'w' | 'W' =>
        let (name, rest) := readLine (skipBlanks rest)
        checkTarget m name
        pure (d.push selection .nothing, rest)
      | 'e' =>
        if m.sandboxed then throw wrongScript
        let (command, rest) := readLine (skipBlanks rest)
        pure (d.push selection (if command.isEmpty then .clear else .nothing), rest)
      | 'v' =>
        let (version, rest) := readName rest
        let numbers := (cutAll '.' version).map fun part => (digits? 10 part).getD 0
        if newestVersion < numbers then throw wrongScript
        pure (d, ← readEnd rest)
      | _ => throw wrongScript

/-- A draft with the steps of a part of the script.  The fuel bounds its length. -/
def Draft.readSteps (m : ScriptManner) : (fuel : Nat) → Draft → List Char → Except Nat Draft
  | 0, _, _ => .error wrongScript
  | fuel + 1, d, cs =>
    match cs.dropWhile fun c => isGap c || c = ';' with
    | [] => .ok d
    | c :: rest => do
      let (d, rest) ← d.readStep m (c :: rest)
      Draft.readSteps m fuel d rest

/-- A draft with one more part of the script. -/
def Draft.readPart (m : ScriptManner) (d : Draft) (cs : List Char) : Except Nat Draft := do
  match d.unfinished with
  | none => Draft.readSteps m (cs.length + 1) d cs
  | some (action, selection, before) =>
    let (d, rest) ← { d with unfinished := none }.readText action selection before cs
    Draft.readSteps m (rest.length + 1) d rest

/-- Whether a script has a place of a name; the empty name is its end. -/
def hasPlace (steps : List Step) (name : List Char) : Bool :=
  name.isEmpty || steps.any fun s => match s.action with
    | .label other => other = name
    | _ => false

/-- **The script that a draft has become.**  A text that was to go on is taken as it stands.  All
blocks are closed, and all places that steps go on at are there. -/
def Draft.finish (d : Draft) : Except Nat Script := do
  let d := match d.unfinished with
    | some (action, selection, text) => d.push selection (action text)
    | none => d
  if d.depth ≠ 0 then throw wrongScript
  let missing := d.steps.any fun s => match s.action with
    | .branch _ name => !hasPlace d.steps name
    | _ => false
  if missing then throw noWayOn
  pure { steps := d.steps.reverse.toArray, quiet := d.quiet }

/-- The draft of a script whose first part begins as given: a mark at its very start makes it
quiet. -/
def Draft.begun (firstPart : List Char) : Draft := { quiet := firstPart.take 2 = ['#', 'n'] }

end Notekeeper.StreamEdit
