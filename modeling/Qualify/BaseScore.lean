import Qualify.Email
import Qualify.Lead
import Qualify.Scorecard.Reader

/-!
# Base scores

The base score of a lead sums up five components: job role, urgency and engagement, which earn a
share of a weight, enrichment by company size and industry, and the penalties. A signal that fires
leaves a line in the trace; one that does not leaves nothing.
-/

namespace Qualify

/-- Points by component. -/
structure Components where
  jobRole : Int := 0
  urgency : Int := 0
  engagement : Int := 0
  enrichment : Int := 0
  negative : Int := 0
deriving Repr, DecidableEq, Inhabited

namespace Components

def total (c : Components) : Int :=
  c.jobRole + c.urgency + c.engagement + c.enrichment + c.negative

/-- The components by name. -/
def entries (c : Components) : List (String × Int) :=
  [("jobRole", c.jobRole), ("urgency", c.urgency), ("engagement", c.engagement),
   ("enrichment", c.enrichment), ("negative", c.negative)]

end Components

/-- What a signal contributes. -/
structure Signal where
  points : Int := 0
  tags : List String := []
  trace : List String := []
deriving Repr, DecidableEq, Inhabited

namespace Signal

/-- Two signals of one component. -/
def and (a b : Signal) : Signal :=
  ⟨a.points + b.points, a.tags ++ b.tags, a.trace ++ b.trace⟩

end Signal

structure BaseScore where
  score : Int
  components : Components := {}
  tags : List String := []
  trace : List String := []
deriving Repr, DecidableEq, Inhabited

/-- The sets of domains that signals look up, in lower case. -/
structure DomainTables where
  competitors : List String := Vocabulary.competitorDomains
  freeMail : List String := Vocabulary.freeMailDomains
  disposable : List String := Vocabulary.disposableDomains

namespace Tag

def invalidData : String := "invalid_data"
def noConfig : String := "no_config"
def scoringError : String := "scoring_error"
def enriched : String := "enriched"
def competitor : String := "competitor"
def freeEmail : String := "free_email"
def invalidDomain : String := "invalid_domain"
def spam : String := "spam"
def executive : String := "executive"

end Tag

/-- Points with their sign. -/
def signedText (n : Int) : String := if n < 0 then toString n else "+" ++ toString n

namespace Signal

/-! ## Job role -/

/-- Does a term stand at the start of a text, no letter or digit behind it? -/
def startsWithTerm (term cs : List Char) : Bool :=
  term.isPrefixOf cs && !(cs.drop term.length).head?.any Domain.isLetterOrDigit

/-- Does a term stand somewhere in a text, no letter or digit beside it? The flag tells whether one
stands before the text. -/
def hasTerm (term : List Char) : Bool → List Char → Bool
  | joined, [] => !joined && term.isEmpty
  | joined, c :: cs =>
    (!joined && startsWithTerm term (c :: cs)) || hasTerm term (Domain.isLetterOrDigit c) cs

/-- The highest seniority that a job title tells. -/
def seniority? (title : String) : Option Vocabulary.Tier :=
  let cs := Text.lower title.toList
  Vocabulary.tiers.find? fun t => t.terms.any fun term => hasTerm term.toList false cs

def jobRole (lead : Lead) (w : Weights) : Except Failure Signal := do
  match ← lead.firstFilled Vocabulary.titlePaths with
  | .text title =>
    match seniority? title with
    | none => return {}
    | some tier =>
      let points ← scaledPoints w.jobRole.shown tier.share
      let tags := if tier.name = "executive" then [Tag.executive] else []
      let line := "Job role '" ++ title ++ "' matched " ++ tier.name ++ " tier (" ++
        signedText points ++ ")"
      return { points, tags, trace := [line] }
  | _ => return {}

/-! ## Levels -/

/-- Runs of blanks and hyphens as single underscores. The flag tells whether the text follows such
a character. -/
def joinRuns : Bool → List Char → List Char
  | _, [] => []
  | inRun, c :: cs =>
    if Text.isBlank c || c == '-' then
      if inRun then joinRuns true cs else '_' :: joinRuns true cs
    else c :: joinRuns false cs

/-- A level as it is looked up. -/
def normalizedLevel (s : String) : String :=
  String.ofList (joinRuns false (Text.lower (Text.trim s.toList)))

/-- A signal that a level gives. -/
def level (lead : Lead) (weight : Binary64) (paths : List String) (levels : Vocabulary.Levels)
    (label : String) : Except Failure Signal := do
  match ← lead.firstFilled paths with
  | .text s =>
    let level := normalizedLevel s
    match levels.lookup level with
    | none => return {}
    | some share =>
      let points ← scaledPoints weight.shown share
      return { points, trace := [label ++ " '" ++ level ++ "' (" ++ signedText points ++ ")"] }
  | _ => return {}

/-! ## Enrichment -/

/-- A signal that a tier gives. -/
def tier (lead : Lead) (paths : List String) (table : PointTable) (label : String) :
    Except Failure Signal := do
  match ← lead.firstFilled paths with
  | .text s =>
    let key := PointTable.tierKey s
    match table.get? key with
    | none => return {}
    | some x =>
      let points ← x.toPoints
      return { points, tags := [Tag.enriched, key],
               trace := [label ++ " '" ++ key ++ "' (" ++ signedText points ++ ")"] }
  | _ => return {}

def enrichment (lead : Lead) (e : Enrichment) : Except Failure Signal := do
  let size ← tier lead Vocabulary.companySizePaths e.companySize "Company size"
  let industry ← tier lead Vocabulary.industryPaths e.industry "Industry"
  return size.and industry

/-! ## Penalties -/

/-- A penalty, if it fires: its magnitude is taken off. -/
def penalty (fired : Bool) (magnitude : Binary64) (tag line : String) : Except Failure Signal := do
  if fired then return { points := -(← magnitude.abs.toPoints), tags := [tag], trace := [line] }
  else return {}

/-- A lead's domain: the one that it gives, else that of its address. -/
def domainOf (lead : Lead) : Option (List Char) :=
  match lead.domain with
  | .text s =>
    let cs := Text.trim s.toList
    if cs.isEmpty then (Address.ofValue lead.email).domain else some (Text.lower cs)
  | _ => (Address.ofValue lead.email).domain

/-- Is a flag of a lead set? -/
def isFlagged (lead : Lead) (path : String) : Except Failure Bool := do
  match ← lead.resolve path with
  | .bool true => return true
  | _ => return false

/-- Is a lead's domain or address wrong? No address at all is not. -/
def hasInvalidDomain (lead : Lead) : Bool :=
  match lead.email with
  | .null => badDomain
  | .text s =>
    if !(Text.trim s.toList).isEmpty && (Address.ofText s).domain.isNone then true else badDomain
  | _ => true
where
  badDomain : Bool :=
    match domainOf lead with
    | none => false
    | some d => !Domain.isRegistrable d

/-- Is an address made up or to be thrown away? -/
def isSpam (a : Address) (disposable : List String) : Bool :=
  Domain.belongsTo a.domain disposable || a.mailbox.any fun m => !m.isEmpty && Mailbox.isFake m

def penalties (tables : DomainTables) (lead : Lead) (own : List String) (p : Penalties) :
    Except Failure Signal := do
  let a := Address.ofValue lead.email
  let competitors := tables.competitors ++ own
  let isCompetitor := Domain.belongsTo (domainOf lead) competitors ||
    Domain.belongsTo a.domain competitors || (← isFlagged lead Vocabulary.competitorFlag)
  let isFreeMail := a.domain.any (fun d => tables.freeMail.contains (String.ofList d)) ||
    (← isFlagged lead Vocabulary.freeMailboxFlag)
  let competitor ← penalty isCompetitor p.competitor Tag.competitor "Competitor penalty applied"
  let freeEmail ← penalty isFreeMail p.freeEmail Tag.freeEmail "Free email penalty"
  let invalidDomain ←
    penalty (hasInvalidDomain lead) p.invalidDomain Tag.invalidDomain "Invalid domain penalty"
  let spam ← penalty (isSpam a tables.disposable) p.spam Tag.spam "Spam penalty applied"
  return ((competitor.and freeEmail).and invalidDomain).and spam

/-- The signal of a section, none if the section is missing. -/
def ofSection {α : Type} (s : Option α) (signal : α → Except Failure Signal) :
    Except Failure Signal :=
  match s with
  | none => .ok {}
  | some a => signal a

end Signal

namespace BaseScore

/-- The tags with those of them that occur again left out. -/
def distinctTags (tags : List String) : List String := tags.eraseDups

/-- The base score of a lead. -/
def ofLead (tables : DomainTables) (lead : Lead) (c : Scorecard) : Except Failure BaseScore := do
  let jobRole ← Signal.ofSection c.weights fun w => Signal.jobRole lead w
  let urgency ← Signal.ofSection c.weights fun w =>
    Signal.level lead w.urgency Vocabulary.urgencyPaths Vocabulary.urgencyLevels "Urgency"
  let engagement ← Signal.ofSection c.weights fun w =>
    Signal.level lead w.engagement Vocabulary.engagementPaths Vocabulary.engagementLevels "Engagement"
  let enrichment ← Signal.ofSection c.enrichment fun e => Signal.enrichment lead e
  let negative ← Signal.ofSection c.penalties fun p =>
    Signal.penalties tables lead c.competitorDomains p
  let components : Components :=
    { jobRole := jobRole.points, urgency := urgency.points, engagement := engagement.points,
      enrichment := enrichment.points, negative := negative.points }
  let all := [jobRole, urgency, engagement, enrichment, negative]
  let score ← clampScore components.total
  return { score, components, tags := distinctTags (all.flatMap Signal.tags),
           trace := all.flatMap Signal.trace }

/-- The base score of what is no lead. -/
def ofNoLead (v : Value) : BaseScore :=
  let reason := if v.isNull then "lead is missing" else "expected a mapping, got " ++ v.typeName
  { score := 0, tags := [Tag.invalidData], trace := ["Invalid lead data: " ++ reason] }

/-- The base score of a value that should be a lead. -/
def ofValue (tables : DomainTables) (cells : Cells) (v : Value) (c : Scorecard) :
    Except Failure BaseScore :=
  match Lead.ofValue? cells v with
  | some lead => ofLead tables lead c
  | none => .ok (ofNoLead v)

end BaseScore

end Qualify
