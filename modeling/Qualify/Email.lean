import Qualify.Text.Case
import Qualify.Text.Digit
import Qualify.Text.Pieces
import Qualify.Vocabulary

/-!
# Email addresses and domains

An address is a mailbox name and a domain around the last at sign, in lower case without blanks
around it. A domain belongs to a set of domains if it or a domain above it is in the set; a
top-level domain is never looked up.
-/

namespace Qualify

/-- An address as far as it can be told apart. -/
structure Address where
  mailbox : Option (List Char) := none
  domain : Option (List Char) := none
deriving DecidableEq

namespace Address

/-- The parts of an address. Without an at sign all of it is the mailbox name. -/
def ofText (s : String) : Address :=
  let cs := Text.lower (Text.trim s.toList)
  if cs.isEmpty then {}
  else match Text.splitAtLast? '@' cs with
    | none => { mailbox := some cs }
    | some (mailbox, domain) =>
      { mailbox := some mailbox, domain := if domain.isEmpty then none else some domain }

/-- The parts of a value that should be an address. -/
def ofValue : Value → Address
  | .text s => ofText s
  | _ => {}

end Address

namespace Domain

/-- A list without its first items, for every number of them that leaves at least two. -/
def tails : List (List Char) → List (List (List Char))
  | a :: b :: rest => (a :: b :: rest) :: tails (b :: rest)
  | _ => []

/-- The domain and the domains above it that are no top-level domains. -/
def withParents (domain : List Char) : List (List Char) :=
  (tails (Text.splitOn '.' domain)).map (Text.joinWith ['.'])

/-- Does the domain belong to a set of domains? -/
def belongsTo (domain : Option (List Char)) (domains : List String) : Bool :=
  match domain with
  | none => false
  | some d => (withParents d).any fun d => domains.contains (String.ofList d)

def isLetter (c : Char) : Bool := 'a' ≤ c && c ≤ 'z'

def isLetterOrDigit (c : Char) : Bool := isLetter c || ('0' ≤ c && c ≤ '9')

/-- A label: letters, digits and inner hyphens, at most 63 of them. -/
def isLabel (cs : List Char) : Bool :=
  1 ≤ cs.length && cs.length ≤ 63 && cs.all (fun c => isLetterOrDigit c || c == '-') &&
    cs.head? != some '-' && cs.getLast? != some '-'

/-- A top-level domain: two to 63 letters. -/
def isTopLevel (cs : List Char) : Bool :=
  2 ≤ cs.length && cs.length ≤ 63 && cs.all isLetter

/-- Can a domain of this form be registered? -/
def isRegistrable (cs : List Char) : Bool :=
  let labels := Text.splitOn '.' cs
  4 ≤ cs.length && cs.length ≤ 253 && 2 ≤ labels.length && labels.dropLast.all isLabel &&
    labels.getLast?.any isTopLevel

end Domain

namespace Mailbox

/-- Is there a run of at least so many decimal digits? -/
def hasDigitRun (n : Nat) : List Char → Bool
  | [] => n == 0
  | c :: cs => (n ≤ ((c :: cs).takeWhile Text.isDecimalDigit).length) || hasDigitRun n cs

/-- Does a mailbox name look made up? -/
def isFake (cs : List Char) : Bool :=
  Vocabulary.fakeNames.any (fun w => w.toList.isPrefixOf cs) || hasDigitRun 8 cs

end Mailbox

end Qualify
