import Qualify.Proofs.BaseScore.Ledger
import Qualify.Proofs.Email.Address
import Qualify.Proofs.Email.Registrable

/-!
# Leads with a wrong domain

The penalty for a wrong domain is for a lead whose email is no text, or a text without a domain, or
whose domain cannot be registered (`Lead.IsMisaddressed`).  The domain of a lead is its own, or else
that of its email, without blanks around it and in lower case.  No such text ends with a line break,
so the pattern of a domain tells the same domains as the form does
(`Lead.HasDomain.occursIn_namePattern_iff`).
-/

namespace Qualify

namespace Lead

variable {lead : Lead} {d : List Char}

/-- The domain of a lead: its own, if it gives a text that is not blank, else what stands behind the
last at sign of its email; without blanks around it and in lower case. -/
inductive HasDomain (lead : Lead) : List Char → Prop
  | own (s : String) (hdomain : lead.domain = .text s) (hne : Text.trim s.toList ≠ []) :
      HasDomain lead (Text.lower (Text.trim s.toList))
  | ofEmail (s : String) (mailbox d : List Char)
      (hnone : ∀ s, lead.domain = .text s → Text.trim s.toList = [])
      (hemail : lead.email = .text s)
      (hlower : Text.lower (Text.trim s.toList) = mailbox ++ '@' :: d)
      (hlast : '@' ∉ d) (hne : d ≠ []) : HasDomain lead d

/-- What the penalty for a wrong domain is for. -/
inductive IsMisaddressed (lead : Lead) : Prop
  | noText (hnull : lead.email ≠ .null) (htext : ∀ s, lead.email ≠ .text s)
  | noDomain (s : String) (hemail : lead.email = .text s) (hne : Text.trim s.toList ≠ [])
      (h : '@' ∉ Text.trim s.toList ∨ ∃ mailbox, Text.trim s.toList = mailbox ++ ['@'])
  | noName (d : List Char) (hdomain : lead.HasDomain d) (h : ¬Domain.IsName d)

theorem domain_ofValue_eq_some_iff {v : Value} : (Address.ofValue v).domain = some d ↔
    ∃ s, v = .text s ∧ d ≠ [] ∧ '@' ∉ d ∧
      ∃ mailbox, Text.lower (Text.trim s.toList) = mailbox ++ '@' :: d := by
  rw [Address.ofValue.eq_def]
  split
  · case h_1 s => simp [Address.domain_ofText_eq_some_iff]
  · case h_2 htext =>
      refine iff_of_false (fun h => nomatch h) ?_
      rintro ⟨s, rfl, -⟩
      exact htext s rfl

/-- A lead that gives a domain of its own has no other. -/
theorem domainOf_of_own {s : String} (hdomain : lead.domain = .text s)
    (hne : Text.trim s.toList ≠ []) :
    Signal.domainOf lead = some (Text.lower (Text.trim s.toList)) := by
  simp [Signal.domainOf, hdomain, hne]

theorem domainOf_of_none (h : ∀ s, lead.domain = .text s → Text.trim s.toList = []) :
    Signal.domainOf lead = (Address.ofValue lead.email).domain := by
  rw [Signal.domainOf]
  split
  · case h_1 s hdomain => simp [h s hdomain]
  · rfl

theorem hasDomain_iff : lead.HasDomain d ↔ Signal.domainOf lead = some d := by
  constructor
  · rintro (⟨s, hdomain, hne⟩ | ⟨s, mailbox, _, hnone, hemail, hlower, hlast, hne⟩)
    · exact domainOf_of_own hdomain hne
    · rw [domainOf_of_none hnone, domain_ofValue_eq_some_iff]
      exact ⟨s, hemail, hne, hlast, mailbox, hlower⟩
  · intro h
    by_cases hown : ∃ s, lead.domain = .text s ∧ Text.trim s.toList ≠ []
    · obtain ⟨s, hdomain, hne⟩ := hown
      rw [domainOf_of_own hdomain hne] at h
      cases Option.some.inj h
      exact .own s hdomain hne
    · have hnone : ∀ s, lead.domain = .text s → Text.trim s.toList = [] := fun s hdomain =>
        by_contra fun hne => hown ⟨s, hdomain, hne⟩
      rw [domainOf_of_none hnone, domain_ofValue_eq_some_iff] at h
      obtain ⟨s, hemail, hne, hlast, mailbox, hlower⟩ := h
      exact .ofEmail s mailbox d hnone hemail hlower hlast hne

/-- The domain of a lead does not end with a blank. -/
theorem HasDomain.last (h : lead.HasDomain d) : ∀ c ∈ d.getLast?, Text.isBlank c = false := by
  have htrimmed : ∀ s : String, Text.IsTrimmed Text.isBlank (Text.lower (Text.trim s.toList)) :=
    fun s => Text.isTrimmed_lower (Text.isTrimmed_trimBy Text.isBlank s.toList)
  cases h with
  | own s hdomain hne => exact (htrimmed s).last
  | ofEmail s mailbox d hnone hemail hlower hlast hne =>
      intro c hc
      refine (htrimmed s).last c ?_
      rw [hlower, List.append_cons, List.getLast?_append_of_ne_nil _ hne]
      exact hc

/-- The pattern of a domain tells whether the domain of a lead can be registered. -/
theorem HasDomain.occursIn_namePattern_iff (h : lead.HasDomain d) :
    Domain.namePattern.occursIn (String.ofList d) = true ↔ Domain.IsName d := by
  rw [Domain.occursIn_namePattern_iff, String.toList_ofList]
  constructor
  · rintro ⟨name, hname, rfl | rfl⟩
    · exact hname
    · exact absurd (h.last '\n' List.getLast?_concat) (by decide)
  · exact fun hname => ⟨d, hname, .inl rfl⟩

/-- A lead has a wrong domain exactly if its email is no text or gives no domain, or its domain
cannot be registered. -/
theorem hasInvalidDomain_iff : Signal.hasInvalidDomain lead = true ↔ lead.IsMisaddressed := by
  have hbad : Signal.hasInvalidDomain.badDomain lead = true ↔
      ∃ d, lead.HasDomain d ∧ ¬Domain.IsName d := by
    rw [Signal.hasInvalidDomain.badDomain]
    simp only [hasDomain_iff, ← Domain.isRegistrable_iff]
    cases Signal.domainOf lead with
    | none => simp
    | some d => simp
  rw [Signal.hasInvalidDomain]
  split
  · case h_1 hnull =>
      rw [hbad]
      constructor
      · exact fun ⟨d, hdomain, h⟩ => .noName d hdomain h
      · rintro (⟨hne, -⟩ | ⟨s, hemail, -⟩ | ⟨d, hdomain, h⟩)
        · exact absurd hnull hne
        · exact nomatch hnull.symm.trans hemail
        · exact ⟨d, hdomain, h⟩
  · case h_2 s hemail =>
      split
      · case isTrue h =>
          simp only [Bool.and_eq_true, Bool.not_eq_true', List.isEmpty_eq_false_iff,
            Option.isNone_iff_eq_none, Address.domain_ofText_eq_none_iff] at h
          exact iff_of_true rfl (.noDomain s hemail h.1 h.2)
      · case isFalse h =>
          simp only [Bool.and_eq_true, Bool.not_eq_true', List.isEmpty_eq_false_iff,
            Option.isNone_iff_eq_none, Address.domain_ofText_eq_none_iff] at h
          rw [hbad]
          constructor
          · exact fun ⟨d, hdomain, h⟩ => .noName d hdomain h
          · rintro (⟨-, htext⟩ | ⟨t, hemail', hne, hat⟩ | ⟨d, hdomain, hname⟩)
            · exact absurd hemail (htext s)
            · cases hemail.symm.trans hemail'
              exact absurd ⟨hne, hat⟩ h
            · exact ⟨d, hdomain, hname⟩
  · case h_3 hnull htext => exact iff_of_true rfl (.noText hnull htext)

end Lead

namespace BaseScore

variable {tables : DomainTables} {lead : Lead} {c : Scorecard} {b : BaseScore} {p : Penalties}

/-- The penalty for a wrong domain fires, with its tag and its line, exactly if the email of the
lead is no text, or a text without a domain, or the domain of the lead cannot be registered; and
the pattern of a domain tells that of every domain that a lead can have. -/
theorem invalidDomain_fires_iff (hp : c.penalties = some p) (hb : ofLead tables lead c = .ok b) :
    ("Invalid domain penalty" ∈ b.trace ↔ lead.IsMisaddressed) ∧
    (lead.IsMisaddressed → Tag.invalidDomain ∈ b.tags) ∧
    Pattern.ofText Domain.namePatternText = .ok (some Domain.namePattern) ∧
    ∀ d, lead.HasDomain d →
      (Domain.namePattern.occursIn (String.ofList d) = true ↔ Domain.IsName d) := by
  obtain ⟨s, hledger, hfired⟩ := exists_ledger_of_penalties hb
  have hsignal := hfired p hp
  have hline : "Invalid domain penalty" ∈ b.trace ↔
      "Invalid domain penalty" ∈ (s .invalidDomain).trace :=
    hledger.line_mem_iff (f := ⟨.invalidDomain, p.invalidDomain, Tag.invalidDomain⟩)
  rw [hline, ← Lead.hasInvalidDomain_iff]
  have hleft : Signal.hasInvalidDomain lead = true →
      "Invalid domain penalty" ∈ (s .invalidDomain).trace ∧
        Tag.invalidDomain ∈ (s .invalidDomain).tags := by
    intro hfires
    obtain ⟨hsilent, -⟩ | ⟨-, q, -, hq⟩ := Signal.penalty_eq_ok_iff.mp hsignal
    · exact nomatch hsilent.symm.trans hfires
    · rw [hq]
      exact ⟨List.mem_singleton.mpr rfl, List.mem_singleton.mpr rfl⟩
  refine ⟨⟨fun hmem => ?_, fun hfires => (hleft hfires).1⟩,
    fun hfires => hledger.mem_tags (hleft hfires).2, Domain.ofText_namePatternText,
    fun d hd => hd.occursIn_namePattern_iff⟩
  obtain ⟨-, hsilent⟩ | ⟨hfires, -⟩ := Signal.penalty_eq_ok_iff.mp hsignal
  · rw [hsilent] at hmem
    exact absurd hmem List.not_mem_nil
  · exact hfires

/-- An address at a domain with a label that ends with a hyphen. -/
theorem invalidDomain_fires_iff_hyphen :
    ∃ b, ofLead {} { email := .text "ada@mail-.example.com" }
        { penalties := some ⟨.zero, .zero, .ofInt 15, .zero⟩ } = .ok b ∧
      Lead.IsMisaddressed { email := .text "ada@mail-.example.com" } := by
  have hscore : ∃ b, ofLead {} { email := .text "ada@mail-.example.com" }
      { penalties := some ⟨.zero, .zero, .ofInt 15, .zero⟩ } = .ok b ∧
        "Invalid domain penalty" ∈ b.trace :=
    ⟨⟨0, { negative := -15 }, [Tag.invalidDomain], ["Invalid domain penalty"]⟩, by decide +kernel⟩
  obtain ⟨b, hb, hline⟩ := hscore
  exact ⟨b, hb, (invalidDomain_fires_iff rfl hb).1.mp hline⟩

end BaseScore

end Qualify
