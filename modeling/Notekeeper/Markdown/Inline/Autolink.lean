import Notekeeper.Markdown.Character
/-!
# Autolinks

Addresses in angle brackets.  Each reader takes what follows the opening bracket and gives the
address and what follows the closing bracket.
-/

namespace Notekeeper.Markdown

/-! ## 1. Addresses of resources -/

/-- Whether a scheme may go on with a character. -/
def isSchemeRest (c : Char) : Bool := c.isAlphanum || c = '.' || c = '+' || c = '-'

/-- **The address of a resource**: a scheme of two to 32 letters, a colon, and no blank. -/
def resource? (cs : List Char) : Option (List Char × List Char) :=
  let scheme := cs.takeWhile isSchemeRest
  match scheme, cs.dropWhile isSchemeRest with
  | c :: _, ':' :: rest =>
    if c.isAlpha ∧ 2 ≤ scheme.length ∧ scheme.length ≤ 32 then
      let isPath (c : Char) : Bool := c ≠ '>' && c ≠ '<' && decide (0x20 < c.toNat)
      match rest.dropWhile isPath with
      | '>' :: after => some (scheme ++ ':' :: rest.takeWhile isPath, after)
      | _ => none
    else none
  | _, _ => none

/-! ## 2. Addresses of mail -/

/-- Whether a character may stand in front of the `@` of an address. -/
def isMailbox (c : Char) : Bool :=
  c.isAlphanum || ".!#$%&\x27*+/=?^_\x60\x7b|\x7d~-".toList.contains c

/-- Whether a character may stand in a part of a domain. -/
def isDomain (c : Char) : Bool := c.isAlphanum || c = '-'

/-- Whether a text is a part of a domain: no dash at its ends and at most 63 characters. -/
def isDomainPart (part : List Char) : Bool :=
  part.head?.any (· ≠ '-') && part.getLast?.any (· ≠ '-') && decide (part.length ≤ 63)

/-- The parts of a domain up to the closing bracket.  The fuel bounds their number. -/
def domain? : (fuel : Nat) → List Char → Option (List Char × List Char)
  | 0, _ => none
  | fuel + 1, cs =>
    let part := cs.takeWhile isDomain
    if isDomainPart part then
      match cs.dropWhile isDomain with
      | '>' :: rest => some (part, rest)
      | '.' :: rest => (domain? fuel rest).map fun (more, after) => (part ++ '.' :: more, after)
      | _ => none
    else none

/-- **The address of a mailbox.** -/
def mailbox? (cs : List Char) : Option (List Char × List Char) :=
  match cs.takeWhile isMailbox, cs.dropWhile isMailbox with
  | c :: name, '@' :: rest =>
    (domain? (rest.length + 1) rest).map fun (domain, after) => (c :: name ++ '@' :: domain, after)
  | _, _ => none

end Notekeeper.Markdown
