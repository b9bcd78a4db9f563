import Qualify.Proofs.Command
import Qualify.Proofs.Json.Reach
import Qualify.Proofs.Text.Utf8

/-!
# Streams of leads

Every line of a stream is to be answered on its own: blank lines by nothing, documents by the
evaluation of what they denote, all others by a complaint.  `Command.StreamsTo` says what a stream
leaves then.  `Program.run_stream` says that a stream leaves this if and only if the reader comes to
no integer of too many digits on any of its lines; the first line where it does ends the stream.
-/

namespace Qualify

namespace Transcript

theorem andThen_assoc (t u v : Transcript) : (t.andThen u).andThen v = t.andThen (u.andThen v) := by
  simp [andThen]

@[simp] theorem empty_andThen (t : Transcript) : ({} : Transcript).andThen t = t := by
  simp [andThen]

end Transcript

/-- What a source says of a lead on its own, for a team that is named. -/
def Source.IsEvaluation (s : Source) (e : Engine) (team : String) (lead : Value) (v : Evaluation) :
    Prop := s.evaluate e [] (.text team) lead = .ok v

namespace Command

/-- The complaint about a line that is skipped. -/
def skipping (number : Nat) (why : String) : Transcript :=
  .errorLines [s!"! Skipping line {number}: not valid JSON ({why})"] 0

/-- What lines that are counted from a number on are to leave, given the evaluations of leads. -/
inductive StreamsTo (evaluates : Value → Evaluation → Prop) :
    Nat → List (List Char) → Transcript → Prop
  | nil (number : Nat) : StreamsTo evaluates number [] {}
  | blank {number : Nat} {line : List Char} {lines : List (List Char)} {u : Transcript}
      (hblank : line.all Text.isBlank) (h : StreamsTo evaluates (number + 1) lines u) :
      StreamsTo evaluates number (line :: lines) u
  | result {number : Nat} {line : List Char} {lines : List (List Char)} {u : Transcript} {j : Json}
      {v : Evaluation} (hfilled : line.all Text.isBlank = false) (hread : Json.read line = .ok j)
      (hevaluates : evaluates j.toValue v) (h : StreamsTo evaluates (number + 1) lines u) :
      StreamsTo evaluates number (line :: lines) ((Transcript.lines [v.document.line]).andThen u)
  | skipped {number : Nat} {line : List Char} {lines : List (List Char)} {u : Transcript}
      {f : Json.ReadFault} (why : String) (hfilled : line.all Text.isBlank = false)
      (hread : Json.read line = .error f) (h : StreamsTo evaluates (number + 1) lines u) :
      StreamsTo evaluates number (line :: lines) ((skipping number why).andThen u)

/-- A line on which the reader comes to an integer of too many digits. -/
def IsOverlong (line : List Char) : Prop :=
  line.all Text.isBlank = false ∧ ∃ n, Json.read line = .error (.longInteger n)

variable {evaluates : Value → Evaluation → Prop} {number : Nat} {line : List Char}
variable {before lines : List (List Char)} {u : Transcript} {t : Team} {e : Engine}

theorem StreamsTo.ending (h : StreamsTo evaluates number lines u) : u.ending = .exit 0 := by
  induction h with
  | nil => rfl
  | blank _ _ ih => exact ih
  | result _ _ _ _ ih => exact ih
  | skipped _ _ _ _ ih => exact ih

/-- What a line leaves that is not overlong, whatever lines follow it. -/
theorem exists_answer (hevaluates : ∀ v, evaluates v (t.evaluate e [] v)) (number : Nat)
    (h : ¬IsOverlong line) :
    ∃ p : Transcript,
      (∀ as, streamed (answerLine t e number line :: as) = p.andThen (streamed as)) ∧
      ∀ lines u, StreamsTo evaluates (number + 1) lines u →
        StreamsTo evaluates number (line :: lines) (p.andThen u) := by
  unfold answerLine readLead
  cases hblank : line.all Text.isBlank with
  | true =>
      refine ⟨{}, fun as => ?_, fun lines u hu => ?_⟩
      · simp [streamed]
      · simpa using StreamsTo.blank hblank hu
  | false =>
      cases hread : Json.read line with
      | ok j => exact ⟨_, fun as => rfl, fun lines u => .result hblank hread (hevaluates _)⟩
      | error f =>
          cases f with
          | complaint c left => exact ⟨_, fun as => rfl, fun lines u => .skipped _ hblank hread⟩
          | longInteger n => exact absurd ⟨hblank, n, hread⟩ h

theorem answerLine_of_isOverlong (number : Nat) (h : IsOverlong line) :
    answerLine t e number line = .broken "ValueError" := by
  obtain ⟨hfilled, n, hread⟩ := h
  simp [answerLine, readLead, hfilled, hread]

/-- Lines that are not overlong leave what they are to leave, whatever lines follow them. -/
theorem exists_streamed_append (hevaluates : ∀ v, evaluates v (t.evaluate e [] v)) (number : Nat)
    (h : ∀ line ∈ before, ¬IsOverlong line) (lines : List (List Char)) :
    ∃ p, StreamsTo evaluates number before p ∧
      streamed (answers t e number (before ++ lines)) =
        p.andThen (streamed (answers t e (number + before.length) lines)) := by
  induction before generalizing number with
  | nil => exact ⟨{}, .nil number, by simp⟩
  | cons line before ih =>
      rw [List.forall_mem_cons] at h
      obtain ⟨p, hp, hcons⟩ := exists_answer hevaluates number h.1
      obtain ⟨q, hq, happend⟩ := ih (number + 1) h.2
      refine ⟨p.andThen q, hcons before q hq, ?_⟩
      rw [List.cons_append, answers, hp, happend, Transcript.andThen_assoc, List.length_cons,
        Nat.add_right_comm, Nat.add_assoc]

theorem streamsTo_streamed (hevaluates : ∀ v, evaluates v (t.evaluate e [] v)) (number : Nat)
    (h : ∀ line ∈ lines, ¬IsOverlong line) :
    StreamsTo evaluates number lines (streamed (answers t e number lines)) := by
  obtain ⟨p, hp, happend⟩ := exists_streamed_append hevaluates number h []
  have hend : p.andThen {} = p := by
    have hending := hp.ending
    cases p
    simpa [Transcript.andThen] using hending.symm
  rw [List.append_nil, answers, streamed, hend] at happend
  rwa [happend]

/-- Plain bytes are the characters of an input as they stand. -/
theorem characters_of_plain {bs : List UInt8} (h : ∀ b ∈ bs, b < 0x80)
    (hreturn : '\r' ∉ bs.map Utf8.plainChar) :
    characters bs = .ok (bs.map Utf8.plainChar) := by
  rw [characters, Utf8.text_of_plain h hreturn]
  simp

/-- A line ends at its line feed. -/
theorem inputLines_append (h : '\n' ∉ line) (rest : List Char) :
    inputLines (line ++ '\n' :: rest) = (line ++ ['\n']) :: inputLines rest := by
  induction line with
  | nil => simp [inputLines]
  | cons c line ih =>
      rw [List.mem_cons, not_or] at h
      rw [List.cons_append, inputLines, if_neg (Ne.symm h.1), ih h.2]
      rfl

/-- The first overlong line ends the stream. -/
theorem exists_streamed_isOverlong (hevaluates : ∀ v, evaluates v (t.evaluate e [] v))
    (number : Nat) (h : ∀ line ∈ before, ¬IsOverlong line) (hline : IsOverlong line)
    (after : List (List Char)) :
    ∃ p, StreamsTo evaluates number before p ∧
      streamed (answers t e number (before ++ line :: after)) =
        p.andThen { ending := .broken "ValueError" } := by
  obtain ⟨p, hp, happend⟩ := exists_streamed_append hevaluates number h (line :: after)
  refine ⟨p, hp, ?_⟩
  rw [happend, answers, answerLine_of_isOverlong _ hline, streamed]

theorem exists_first_isOverlong (h : ∃ line ∈ lines, IsOverlong line) :
    ∃ before line after, lines = before ++ line :: after ∧ (∀ l ∈ before, ¬IsOverlong l) ∧
      IsOverlong line := by
  classical
  obtain ⟨line, hmem, hline⟩ := h
  cases hfind : lines.find? fun l => decide (IsOverlong l) with
  | none => exact absurd hline (by simpa using List.find?_eq_none.mp hfind line hmem)
  | some first =>
      obtain ⟨hfirst, before, after, hlines, hbefore⟩ := List.find?_eq_some_iff_append.mp hfind
      exact ⟨before, first, after, hlines, by simpa using hbefore, by simpa using hfirst⟩

/-- Lines end well if and only if none of them is overlong. -/
theorem ending_streamed_iff (hevaluates : ∀ v, evaluates v (t.evaluate e [] v)) :
    (streamed (answers t e number lines)).ending = .exit 0 ↔ ∀ line ∈ lines, ¬IsOverlong line := by
  constructor
  · intro hending line hmem hline
    obtain ⟨before, line, after, rfl, hbefore, hline⟩ := exists_first_isOverlong ⟨line, hmem, hline⟩
    obtain ⟨p, -, hstreamed⟩ := exists_streamed_isOverlong hevaluates number hbefore hline after
    rw [hstreamed] at hending
    cases hending
  · intro h
    exact (streamsTo_streamed hevaluates number h).ending

end Command

namespace Program

variable {s : Surroundings} {words : List String} {team : String} {rules : Option String}
variable {source : Source} {t : Team} {e : Engine} {cs : List Char}

theorem run_eq_streamed (h : Command.read s words = .ok (.stream team rules))
    (hsource : s.openSource rules = .ok source) (hteam : source.team (.text team) = .ok t)
    (hengine : s.engine = .ok e) (hinput : Command.characters s.input = .ok cs) :
    run s words = Command.streamed (Command.answers t e 1 (Command.inputLines cs)) := by
  have hstream : Command.streamTeam s team rules = .ok (t, e) := by
    rw [Command.streamTeam, hsource, hengine, Except.ok_bind, hteam]
    rfl
  rw [run, h]
  change Command.runStream s team rules = _
  rw [Command.runStream, hstream, hinput]

/-- A stream for a team of a rulebook that was read leaves line by line what it is to leave if and
only if none of its lines is overlong, and ends well if and only if none is; the source goes on
serving what it was opened with.  A line is overlong only if it has more digits side by side than an
integer may have.  Before the first such line all is as it should be; there the stream breaks
off. -/
theorem run_stream (h : Command.read s words = .ok (.stream team rules))
    (hsource : s.openSource rules = .ok source) (hteam : source.team (.text team) = .ok t)
    (hengine : s.engine = .ok e) (hinput : Command.characters s.input = .ok cs) :
    (Command.StreamsTo (source.IsEvaluation e team) 1 (Command.inputLines cs) (run s words) ↔
      ∀ line ∈ Command.inputLines cs, ¬Command.IsOverlong line) ∧
    ((run s words).ending = .exit 0 ↔
      ∀ line ∈ Command.inputLines cs, ¬Command.IsOverlong line) ∧
    (∀ line, Command.IsOverlong line → ∃ n, digitLimit < n ∧ Json.HasDigits n line) ∧
    ∀ before line after, Command.inputLines cs = before ++ line :: after →
      (∀ l ∈ before, ¬Command.IsOverlong l) → Command.IsOverlong line →
      ∃ u, Command.StreamsTo (source.IsEvaluation e team) 1 before u ∧
        run s words = u.andThen { ending := .broken "ValueError" } := by
  have hevaluates : ∀ lead, source.IsEvaluation e team lead (t.evaluate e [] lead) := by
    intro lead
    rw [Source.IsEvaluation, Source.evaluate, hteam]
    rfl
  rw [run_eq_streamed h hsource hteam hengine hinput]
  refine ⟨⟨fun hstreams => ?_, Command.streamsTo_streamed hevaluates 1⟩,
    Command.ending_streamed_iff hevaluates, ?_, ?_⟩
  · exact (Command.ending_streamed_iff hevaluates).mp hstreams.ending
  · rintro line ⟨-, n, hread⟩
    exact ⟨n, Json.hasDigits_of_longInteger hread⟩
  · intro before line after hlines hbefore hline
    rw [hlines]
    exact Command.exists_streamed_isOverlong hevaluates 1 hbefore hline after

end Program

/-! The file with one team again, and something on the input. -/

namespace OneRule

def streamed (input : List UInt8) : Surroundings := { oneFile with input }

def streamWords : List String := ["stream", "--team", "t", "--rules-file", "r"]

theorem read_streamWords (input : List UInt8) :
    Command.read (streamed input) streamWords = .ok (.stream "t" (some "r")) := by
  cbv

theorem exists_engine (input : List UInt8) : ∃ e, (streamed input).engine = .ok e :=
  ⟨_, rfl⟩

theorem exists_source (input : List UInt8) :
    ∃ source t, (streamed input).openSource (some "r") = .ok source ∧
      source.team (.text "t") = .ok t := by
  obtain ⟨b, hb, hteams, -⟩ := exists_ofFile_file
  have hmem : ("t", 1) ∈ b.teams.map fun t => (t.1, t.2.rules.length) := by
    rw [hteams]
    exact List.mem_singleton_self _
  obtain ⟨t, ht, heq⟩ := List.mem_map.mp hmem
  obtain ⟨u, hu, -⟩ := Rulebook.exists_team ht
  rw [(Prod.mk.inj heq).1] at hu
  have hfind : (streamed input).folder.find (.ofText "r") = file := by
    simp [streamed, oneFile, Folder.find]
  have hload : Source.load { path := .ofText "r" } file =
      .ok (.publish { path := .ofText "r" } b, b) := Source.load_eq_ok_iff.mpr ⟨hb, rfl⟩
  refine ⟨.publish { path := .ofText "r" } b, u, ?_,
    Source.team_eq_ok_iff.mpr ⟨b, "t", rfl, rfl, hu⟩⟩
  rw [Surroundings.openSource, Surroundings.rulesPath, Except.ok_bind, hfind, hload]
  rfl

/-- A document, a blank line and something else. -/
def shortInput : List UInt8 := "\x7b\x7d\n \nnull,\n".toUTF8.data.toList

def threeLines : List (List Char) := [['\x7b', '\x7d', '\n'], [' ', '\n'], "null,\n".toList]

theorem characters_shortInput : Command.characters shortInput = .ok threeLines.flatten := by
  have hchars : shortInput.map Utf8.plainChar = threeLines.flatten := by decide +kernel
  rw [← hchars]
  exact Command.characters_of_plain (by decide +kernel) (by decide +kernel)

end OneRule

open OneRule in
theorem Program.run_stream_threeLines :
    Command.read (streamed shortInput) streamWords = .ok (.stream "t" (some "r")) ∧
    ∃ source t e, (streamed shortInput).openSource (some "r") = .ok source ∧
      source.team (.text "t") = .ok t ∧ (streamed shortInput).engine = .ok e ∧
      Command.characters shortInput = .ok threeLines.flatten ∧
      Command.StreamsTo (source.IsEvaluation e "t") 1 threeLines
        (run (streamed shortInput) streamWords) ∧
      (run (streamed shortInput) streamWords).ending = .exit 0 := by
  obtain ⟨source, t, hsource, hteam⟩ := exists_source shortInput
  obtain ⟨e, hengine⟩ := exists_engine shortInput
  have hlines : Command.inputLines threeLines.flatten = threeLines := by decide
  have hread := read_streamWords shortInput
  obtain ⟨hstreams, hending, hdigits, -⟩ :=
    run_stream hread hsource hteam hengine characters_shortInput
  rw [hlines] at hstreams hending
  have hshort : ∀ line ∈ threeLines, line.length ≤ digitLimit := by decide
  have hnone : ∀ line ∈ threeLines, ¬Command.IsOverlong line := by
    intro line hmem hline
    obtain ⟨n, hn, ds, hds, rfl, -⟩ := hdigits line hline
    exact absurd ((Nat.lt_of_lt_of_le hn hds.length_le).trans_le (hshort line hmem)) (lt_irrefl _)
  exact ⟨hread, source, t, e, hsource, hteam, hengine, characters_shortInput, hstreams.mpr hnone,
    hending.mpr hnone⟩

/-! On one line a digit more than an integer may have, and a document on the next one. -/

namespace OneRule

def longLine : List Char := List.replicate (digitLimit + 1) '1' ++ ['\n']

def documentLine : List Char := ['\x7b', '\x7d', '\n']

def longInput : List UInt8 :=
  List.replicate (digitLimit + 1) 0x31 ++ [0x0a, 0x7b, 0x7d, 0x0a]

theorem characters_longInput : Command.characters longInput = .ok (longLine ++ documentLine) := by
  have hplain : ∀ b ∈ longInput, b < 0x80 := by
    rw [longInput, List.forall_mem_append]
    refine ⟨fun b hb => ?_, by simp⟩
    rw [List.eq_of_mem_replicate hb]
    decide
  have hchars : longInput.map Utf8.plainChar = longLine ++ documentLine := by
    rw [longInput, longLine, List.map_append, List.map_replicate, List.append_assoc]
    rfl
  rw [← hchars]
  refine Command.characters_of_plain hplain ?_
  rw [hchars, longLine, documentLine]
  simp

theorem inputLines_longLine :
    Command.inputLines (longLine ++ documentLine) = [longLine, documentLine] := by
  rw [longLine, List.append_assoc]
  exact Command.inputLines_append (by simp) _

theorem takeDigits_ones (n : Nat) :
    Decimal.takeDigits (List.replicate n '1' ++ ['\n']) = (List.replicate n 1, ['\n']) := by
  have hones : ∀ c ∈ List.replicate n '1', c.isDigit := by
    intro c hc
    rw [List.eq_of_mem_replicate hc]
    rfl
  rw [Decimal.takeDigits, List.takeWhile_append_of_pos hones, List.dropWhile_append_of_pos hones]
  simp

theorem unsigned_ones (here : List Char) (s : Bool) {n : Nat} (hn : digitLimit < n + 1) :
    Json.unsigned here s (List.replicate (n + 1) '1' ++ ['\n']) =
      .error (.longInteger (n + 1)) := by
  unfold Json.unsigned
  split
  case h_1 whole rest hsplit =>
  have hpair : (whole, rest) = (List.replicate (n + 1) 1, ['\n']) :=
    hsplit.symm.trans (takeDigits_ones (n + 1))
  cases hpair
  simp [Json.fractionPart, Json.exponentPart, List.replicate_succ, hn]

theorem read_ones {n : Nat} (hn : digitLimit < n + 1) :
    Json.read (List.replicate (n + 1) '1' ++ ['\n']) = .error (.longInteger (n + 1)) := by
  have hspace : Json.skipSpace (List.replicate (n + 1) '1' ++ ['\n']) =
      List.replicate (n + 1) '1' ++ ['\n'] := rfl
  have hvalue (fuel : Nat) : Json.value (fuel + 1) (List.replicate (n + 1) '1' ++ ['\n']) =
      .error (.longInteger (n + 1)) := by
    rw [← unsigned_ones (List.replicate (n + 1) '1' ++ ['\n']) false hn]
    rfl
  unfold Json.read
  rw [hspace, hvalue]
  rfl

theorem isOverlong_longLine : Command.IsOverlong longLine :=
  ⟨rfl, _, read_ones (Nat.lt_succ_self digitLimit)⟩

end OneRule

open OneRule in
/-- The first line ends the stream, and the document on the second one is not scored. -/
theorem Program.run_stream_longLine :
    Command.read (streamed longInput) streamWords = .ok (.stream "t" (some "r")) ∧
      ∃ source t e cs, (streamed longInput).openSource (some "r") = .ok source ∧
        source.team (.text "t") = .ok t ∧ (streamed longInput).engine = .ok e ∧
        Command.characters longInput = .ok cs ∧
        Command.inputLines cs = [longLine, documentLine] ∧
        run (streamed longInput) streamWords = { ending := .broken "ValueError" } ∧
        ¬Command.StreamsTo (source.IsEvaluation e "t") 1
          (Command.inputLines cs) (run (streamed longInput) streamWords) := by
  obtain ⟨source, t, hsource, hteam⟩ := exists_source longInput
  obtain ⟨e, hengine⟩ := exists_engine longInput
  have hread := read_streamWords longInput
  have hrun : run (streamed longInput) streamWords = { ending := .broken "ValueError" } := by
    rw [run_eq_streamed hread hsource hteam hengine characters_longInput, inputLines_longLine,
      Command.answers, Command.answerLine_of_isOverlong 1 isOverlong_longLine, Command.streamed]
  refine ⟨hread, source, t, e, _, hsource, hteam, hengine, characters_longInput,
    inputLines_longLine, hrun, fun hstreams => ?_⟩
  have hending := hstreams.ending
  rw [hrun] at hending
  cases hending

end Qualify
