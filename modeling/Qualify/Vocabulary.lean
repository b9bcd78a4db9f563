import Qualify.Points

/-!
# Vocabulary

The words and domains that signals are recognised by, with the share of a weight that each of them
earns in hundredths, and the paths at which a lead may give them.
-/

namespace Qualify.Vocabulary

/-- A seniority: the terms that tell it in a job title and its share of the weight. -/
structure Tier where
  name : String
  share : Decimal
  terms : List String

/-- The seniorities, highest first. -/
def tiers : List Tier := [
  { name := "executive", share := hundredths 100
    terms := ["ceo", "cto", "cfo", "coo", "cmo", "cio", "ciso", "cro", "chief", "founder",
      "co-founder", "cofounder", "president", "managing partner"] },
  { name := "vice_president", share := hundredths 85
    terms := ["vp", "svp", "evp", "vice president", "head of", "general manager"] },
  { name := "director", share := hundredths 70, terms := ["director", "principal"] },
  { name := "manager", share := hundredths 40, terms := ["manager", "lead", "supervisor"] }]

def titlePaths : List String := ["fields.title", "fields.job_title", "fields.jobTitle", "title"]

/-- Shares of a weight by level. -/
abbrev Levels := List (String × Decimal)

def urgencyLevels : Levels := [
  ("immediate", hundredths 100), ("asap", hundredths 100), ("urgent", hundredths 100),
  ("high", hundredths 100), ("this_month", hundredths 80), ("soon", hundredths 60),
  ("medium", hundredths 60), ("this_quarter", hundredths 60), ("low", hundredths 20),
  ("this_year", hundredths 20), ("later", hundredths 10), ("exploring", hundredths 10)]

def urgencyPaths : List String := ["fields.urgency", "fields.timeline", "urgency"]

def engagementLevels : Levels := [
  ("demo_requested", hundredths 100), ("very_interested", hundredths 100), ("high", hundredths 100),
  ("interested", hundredths 60), ("medium", hundredths 60), ("engaged", hundredths 60),
  ("low", hundredths 20), ("curious", hundredths 20), ("browsing", hundredths 10)]

def engagementPaths : List String := ["fields.engagement", "fields.interest", "engagement"]

def companySizePaths : List String :=
  ["fields.company_size", "fields.companySize", "fields.enrichment.companySize",
   "fields.enrichment.company_size"]

def industryPaths : List String := ["fields.industry", "fields.enrichment.industry"]

def competitorFlag : String := "fields.enrichment.isCompetitor"

def freeMailboxFlag : String := "fields.enrichment.isFreeMailbox"

/-- Mailbox providers that are free of charge. -/
def freeMailDomains : List String := [
  "gmail.com", "googlemail.com", "yahoo.com", "yahoo.co.uk", "hotmail.com", "outlook.com",
  "aol.com", "icloud.com", "me.com", "mac.com", "live.com", "msn.com", "yandex.com", "yandex.ru",
  "mail.ru", "qq.com", "163.com", "126.com", "naver.com", "web.de", "gmx.de", "gmx.com",
  "t-online.de", "orange.fr", "free.fr", "libero.it", "btinternet.com", "protonmail.com",
  "proton.me", "tutanota.com", "mailfence.com", "hushmail.com", "zoho.com", "zohomail.com",
  "mail.com", "email.com", "fastmail.com", "hey.com", "rediffmail.com", "seznam.cz", "wp.pl",
  "onet.pl"]

/-- Providers of mailboxes to be thrown away. -/
def disposableDomains : List String := [
  "10minutemail.com", "guerrillamail.com", "mailinator.com", "tempmail.org", "temp-mail.org",
  "throwaway.email", "getnada.com", "maildrop.cc", "fakemailgenerator.com", "33mail.com",
  "spamgourmet.com", "sneakemail.com", "yopmail.com", "sharklasers.com", "grr.la",
  "dispostable.com", "tempail.com", "minuteinbox.com", "emailondeck.com", "mohmal.com",
  "mytrashmail.com"]

/-- Vendors that compete for the same buyers. -/
def competitorDomains : List String := [
  "typeform.com", "typeform.io", "jotform.com", "jotform.io", "forms.google.com",
  "forms.office.com", "formstack.com", "wufoo.com", "cognitoforms.com", "surveymonkey.com",
  "tally.so"]

/-- What a mailbox name starts with if it is made up. -/
def fakeNames : List String := ["test", "temp", "fake", "spam", "asdf"]

end Qualify.Vocabulary
