/-
**Where the reviewer takes a band from** (`parse_assessment`, `Reviewer::decide`, `reviewer.rs`).

The fields of a JSON reply are its positions. A free text is divided by its labels: what stands
behind a label belongs to what the label names, up to the next label.

* `masked` — the text with what belongs to another position blanked; `Reply` — the positions of a
  reply.
* `FailsClosed` — neither word is taken for the other one, and without both of them nothing runs.
* **`json_failsClosed`** — an answer from the JSON object fails closed.
* `Orderly` — the severest band word stands elsewhere than behind an authorization label, the
  authorization word that is read stands behind one, and what may run has a band word behind a risk
  label.
* **`parseAssessment_failsClosed_iff`** — **when the parser fails closed** on a reply.
-/

import Ziee.Agent.RiskReplies

namespace Ziee.Agent

open ByteSlices Framing

variable {readMembers : List Char → Option (List (String × Providers.Json))}
    {text words : List Char}
  {band : Risk} {authorization : Authorization} {labels : List String} {label : String}

def bandWord : Risk → String
  | .low => "LOW"
  | .high => "HIGH"
  | .critical => "CRITICAL"

def authorizationWords : Authorization → List String
  | .high => ["HIGH"]
  | .medium => ["MEDIUM", "MED"]
  | .low => ["LOW"]
  | .unknown => ["UNKNOWN", "ABSTAIN", "UNSURE", "N/A"]

def Named (part : List Char) (authorization : Authorization) : Prop :=
  ∃ word ∈ authorizationWords authorization, contains part word = true

def Risk.worse : Risk → List Risk
  | .low => [.high, .critical]
  | .high => [.critical]
  | .critical => []

def Severest (words : List Char) (band : Risk) : Prop :=
  contains words (bandWord band) = true ∧ ∀ worse ∈ band.worse,
    contains words (bandWord worse) = false

theorem parseRiskBand_eq_some_iff : parseRiskBand text = some band ↔
    Severest (upper text) band := by
  unfold parseRiskBand Severest
  by_cases critical : contains (upper text) "CRITICAL" = true
  · cases band <;> simp [critical, bandWord, Risk.worse]
  · by_cases high : contains (upper text) "HIGH" = true
    · cases band <;> simp [critical, high, bandWord, Risk.worse]
    · by_cases low : contains (upper text) "LOW" = true
      · cases band <;> simp [critical, high, low, bandWord, Risk.worse]
      · cases band <;> simp [critical, high, low, bandWord, Risk.worse]

theorem parseRiskBand_eq_none_iff :
    parseRiskBand text = none ↔ ∀ band, contains (upper text) (bandWord band) = false := by
  unfold parseRiskBand
  constructor
  · intro none band
    by_cases critical : contains (upper text) "CRITICAL" = true
    · simp [critical] at none
    · by_cases high : contains (upper text) "HIGH" = true
      · simp [critical, high] at none
      · by_cases low : contains (upper text) "LOW" = true
        · simp [critical, high, low] at none
        · cases band <;> simp_all [bandWord]
  · intro absent
    have critical : contains (upper text) "CRITICAL" = false := absent .critical
    have high : contains (upper text) "HIGH" = false := absent .high
    have low : contains (upper text) "LOW" = false := absent .low
    simp [critical, high, low]

theorem named_of_parseAuthorizationWord (read : parseAuthorizationWord text = some authorization) :
    Named (upper text) authorization := by
  unfold parseAuthorizationWord at read
  unfold Named
  dsimp only at read
  split at read
  · rename_i there
    cases read
    simpa [authorizationWords, or_assoc] using there
  · split at read
    · rename_i there
      cases read
      simpa [authorizationWords] using there
    · split at read
      · rename_i there
        cases read
        simpa [authorizationWords] using there
      · split at read
        · rename_i there
          cases read
          simpa [authorizationWords] using there
        · cases read

/-! ### The positions -/

inductive Dimension
  | risk
  | authorization
  deriving DecidableEq, Repr

def labelHere (words : List Char) : Option (Dimension × Nat) :=
  if "RISK".toList <+: words then some (.risk, 4)
  else if "AUTHORIZATION".toList <+: words then some (.authorization, 13)
  else if "AUTHZ".toList <+: words then some (.authorization, 5)
  else none

/-- The words with the labels, and what `keep` leaves out, blanked. -/
def masked (keep : Option Dimension → Bool) : Nat → Option Dimension → List Char → List Char
  | _, _, [] => []
  | inLabel + 1, owner, _ :: words => ' ' :: masked keep inLabel owner words
  | 0, owner, c :: words =>
    match labelHere (c :: words) with
    | some (dimension, length) => ' ' :: masked keep (length - 1) (some dimension) words
    | none => (if keep owner then c else ' ') :: masked keep 0 owner words

/-- What stands behind a label of the dimension. -/
def part (dimension : Dimension) (words : List Char) : List Char :=
  masked (fun owner => owner = some dimension) 0 none words

/-- What does not stand behind an authorization label. -/
def outsideAuthorization (words : List Char) : List Char :=
  masked (fun owner => owner ≠ some .authorization) 0 none words

example : part .risk "RISK: HIGH. AUTHORIZATION: LOW".toList =
    "    : HIGH.                   ".toList := by decide +kernel

structure Reply where
  risk : List Char
  authorization : List Char
  outside : List Char

def RawAssessment.reply (raw : RawAssessment) : Reply :=
  { risk := upper (raw.risk.getD "").toList
    authorization := upper (raw.authorization.getD "").toList
    outside := upper (raw.risk.getD "").toList }

def freeReply (words : List Char) : Reply :=
  { risk := part .risk words
    authorization := part .authorization words
    outside := outsideAuthorization words }

/-- The object of a reply, from the first brace to the last. -/
def objectOf (text : List Char) : Option (List Char) :=
  match ByteSlices.find ['\x7b'] text, rfind '\x7d' text with
  | some start, some stop => if stop < start then none else slice start (stop + 1) text
  | _, _ => none

def rawOf (readMembers : List Char → Option (List (String × Providers.Json))) (text : List Char) :
    Option RawAssessment :=
  (objectOf text).bind fun object => (readMembers object).bind RawAssessment.ofMembers

/-- The reply has a JSON object that names a band. -/
def Structured (readMembers : List Char → Option (List (String × Providers.Json)))
    (text : List Char) :
    Prop := ∃ raw, rawOf readMembers text = some raw ∧ raw.assessment.isSome = true

/-- The positions: the fields of the object that names a band, or the parts of the free text. -/
def replyOf (readMembers : List Char → Option (List (String × Providers.Json))) (text : List Char) :
    Reply :=
  match (rawOf readMembers text).filter fun raw => raw.assessment.isSome with
  | some raw => raw.reply
  | none => freeReply (upper text)

theorem parseJsonAssessment_eq (readMembers : List Char → Option (List (String × Providers.Json)))
    (text : List Char) : parseJsonAssessment readMembers text =
      some ((rawOf readMembers text).bind RawAssessment.assessment) := by
  have answers := parseJsonAssessment_isSome readMembers text
  unfold parseJsonAssessment at answers ⊢
  unfold rawOf objectOf
  cases opened : ByteSlices.find ['\x7b'] text with
  | none => rfl
  | some start =>
    cases closed : rfind '\x7d' text with
    | none => rfl
    | some stop =>
      rw [opened, closed] at answers
      dsimp only at answers ⊢
      by_cases crossed : stop < start
      · rw [if_pos crossed, if_pos crossed]
        rfl
      · rw [if_neg crossed] at answers ⊢
        rw [if_neg crossed]
        cases there : slice start (stop + 1) text with
        | none =>
          rw [there] at answers
          cases answers
        | some object => rfl

/-! ### Failing closed -/

/-- **The assessment fails closed**: its band and its authorization are not taken from each other's
word, and no reviewer lets a call run on it unless a band word stands in the risk position, and an
authorization word in the other one. -/
structure FailsClosed (reply : Reply) (assessment : RiskAssessment) : Prop where
  band : contains reply.outside (bandWord assessment.band) = true
  authorization : assessment.authorization = .unknown ∨
    Named reply.authorization assessment.authorization
  auto : ∀ reviewer : Reviewer, reviewer.decide assessment = .auto →
    (∃ band, contains reply.risk (bandWord band) = true) ∧
      ∃ authorization, authorization ≠ .unknown ∧ Named reply.authorization authorization

/-- Some reviewer lets it run. -/
def MayRun : Risk → Authorization → Prop
  | .critical, _ => False
  | .high, authorization => authorization.atLeastMedium = true
  | .low, authorization => authorization ≠ .unknown

theorem exists_decide_auto_iff :
    (∃ reviewer : Reviewer, reviewer.decide ⟨band, authorization⟩ = .auto) ↔
      MayRun band authorization := by
  constructor
  · rintro ⟨reviewer, auto⟩
    cases band with
    | critical =>
      unfold Reviewer.decide applyAuthorization at auto
      dsimp only at auto
      split at auto <;> simp_all
    | high =>
      unfold Reviewer.decide applyAuthorization at auto
      by_cases enough : authorization.atLeastMedium = true
      · exact enough
      · dsimp only at auto
        rw [if_neg enough] at auto
        split at auto <;> simp_all
    | low =>
      rintro rfl
      exact reviewer.decide_unknown_ne_auto .low auto
  · intro mayRun
    refine ⟨⟨"", ⟨fun _ => none⟩⟩, ?_⟩
    cases band with
    | critical => cases mayRun
    | high =>
      have enough : authorization.atLeastMedium = true := mayRun
      simp [Reviewer.decide, applyAuthorization, RiskThresholds.resolve, mapRisk, enough]
    | low =>
      have known : authorization ≠ .unknown := mayRun
      cases authorization <;>
        simp_all [Reviewer.decide, applyAuthorization, RiskThresholds.resolve, mapRisk]

theorem mayRun_known (mayRun : MayRun band authorization) : authorization ≠ .unknown := by
  rintro rfl
  cases band <;> simp [MayRun, Authorization.atLeastMedium] at mayRun

theorem json_failsClosed {raw : RawAssessment} {assessment : FullAssessment}
    (answered : raw.assessment = some assessment) :
    FailsClosed raw.reply assessment.toRiskAssessment := by
  unfold RawAssessment.assessment at answered
  obtain ⟨risk, named, rest⟩ := Option.bind_eq_some_iff.mp answered
  obtain ⟨band, banded, same⟩ := Option.bind_eq_some_iff.mp rest
  cases same
  have word : contains raw.reply.risk (bandWord band) = true := by
    unfold RawAssessment.reply
    rw [named]
    exact (parseRiskBand_eq_some_iff.mp banded).1
  have taken : (raw.authorization.bind fun text => parseAuthorizationWord text.toList).getD
    .unknown =
      .unknown ∨ Named raw.reply.authorization
        ((raw.authorization.bind fun text => parseAuthorizationWord text.toList).getD
          .unknown) := by
    unfold RawAssessment.reply
    cases raw.authorization with
    | none => exact Or.inl rfl
    | some field =>
      cases read : parseAuthorizationWord field.toList with
      | none => exact Or.inl (by simp [read])
      | some authorization =>
        refine Or.inr ?_
        simpa [read] using named_of_parseAuthorizationWord read
  refine ⟨word, taken, fun reviewer auto => ⟨⟨band, word⟩, ?_⟩⟩
  have known := mayRun_known (exists_decide_auto_iff.mp ⟨reviewer, auto⟩)
  exact ⟨_, known, taken.resolve_left known⟩

/-! ### The free text -/

def SpeaksOf (words : List Char) (labels : List String) (authorization : Authorization) : Prop :=
  ∃ before label after window, labels = before ++ label :: after ∧
    (∀ earlier ∈ before, Passed words earlier) ∧ behind words label = .window window ∧
      parseAuthorizationWord window = some authorization

theorem parseAuthorizationLabeled_of_speaksOf (speaks : SpeaksOf words labels authorization) :
    parseAuthorizationLabeled words labels = some authorization := by
  obtain ⟨before, label, after, window, rfl, passed, here, read⟩ := speaks
  induction before with
  | nil =>
    rw [List.nil_append, parseAuthorizationLabeled_cons, here]
    dsimp only
    rw [read]
  | cons first before ih =>
    obtain ⟨this, later⟩ := List.forall_mem_cons.mp passed
    rw [List.cons_append, parseAuthorizationLabeled_cons]
    rcases this with absent | ⟨silent, other, unread⟩
    · rw [absent]
      exact ih later
    · rw [other]
      dsimp only
      rw [unread]
      exact ih later

theorem SpeaksOf.cons (passed : Passed words label) (speaks : SpeaksOf words labels authorization) :
    SpeaksOf words (label :: labels) authorization := by
  obtain ⟨before, speaker, after, window, rfl, earlier, here, read⟩ := speaks
  exact ⟨label :: before, speaker, after, window, rfl, List.forall_mem_cons.mpr ⟨passed, earlier⟩,
    here,
    read⟩

theorem parseAuthorizationLabeled_some
    (read : parseAuthorizationLabeled words labels = some authorization) :
    authorization = .unknown ∨ SpeaksOf words labels authorization := by
  induction labels with
  | nil =>
    cases read
    exact Or.inl rfl
  | cons label labels ih =>
    rw [parseAuthorizationLabeled_cons] at read
    cases here : behind words label with
    | nothing =>
      rw [here] at read
      exact (ih read).imp_right (SpeaksOf.cons (Or.inl here))
    | torn =>
      rw [here] at read
      cases read
    | window window =>
      rw [here] at read
      dsimp only at read
      cases spoken : parseAuthorizationWord window with
      | none =>
        rw [spoken] at read
        exact (ih read).imp_right (SpeaksOf.cons (Or.inr ⟨window, here, spoken⟩))
      | some other =>
        rw [spoken] at read
        cases read
        exact Or.inr ⟨[], label, labels, window, rfl, fun _ member =>
          (List.not_mem_nil member).elim,
          here, spoken⟩

/-- **The words stand where their labels put them.** -/
structure Orderly (words : List Char) : Prop where
  band : ∀ band, Severest words band → contains (outsideAuthorization words) (bandWord band) = true
  authorization : ∀ authorization, SpeaksOf words authorizationLabels authorization →
    authorization = .unknown ∨ Named (part .authorization words) authorization
  risk : ∀ band authorization, Severest words band →
    SpeaksOf words authorizationLabels authorization → MayRun band authorization →
      ∃ band, contains (part .risk words) (bandWord band) = true

theorem Orderly.failsClosed (orderly : Orderly words) (severest : Severest words band)
    (read : authorization = .unknown ∨ SpeaksOf words authorizationLabels authorization) :
    FailsClosed (freeReply words) ⟨band, authorization⟩ := by
  have taken : authorization = .unknown ∨ Named (freeReply words).authorization authorization := by
    rcases read with unknown | speaks
    · exact Or.inl unknown
    · exact orderly.authorization authorization speaks
  refine ⟨orderly.band band severest, taken, fun reviewer auto => ?_⟩
  have mayRun := exists_decide_auto_iff.mp ⟨reviewer, auto⟩
  have known := mayRun_known mayRun
  exact ⟨orderly.risk band authorization severest (read.resolve_left known) mayRun, authorization,
    known,
    taken.resolve_left known⟩

/-- **When the parser fails closed**: the reply is answered from its JSON object, or names no band,
or is none that the parser returns on, or its words stand where their labels put them. -/
theorem parseAssessment_failsClosed_iff
    (readMembers : List Char → Option (List (String × Providers.Json))) (text : List Char) :
    (∀ assessment, parseAssessment readMembers text = some (.ok assessment) →
        FailsClosed (replyOf readMembers text) assessment.toRiskAssessment) ↔
      Structured readMembers text ∨ (∀ band, contains (upper text) (bandWord band) = false) ∨
        ReachesTorn (upper text) authorizationLabels ∨ Orderly (upper text) := by
  rw [← parseRiskBand_eq_none_iff, ← parseAuthorizationLabeled_eq_none]
  unfold parseAssessment
  rw [parseJsonAssessment_eq]
  by_cases structured : Structured readMembers text
  · refine iff_of_true ?_ (Or.inl structured)
    obtain ⟨raw, there, names⟩ := structured
    obtain ⟨given, answered⟩ := Option.isSome_iff_exists.mp names
    have positions : replyOf readMembers text = raw.reply := by
      rw [replyOf, there, Option.filter_some, if_pos names]
    rw [there, Option.bind_some, answered, positions]
    intro assessment same
    cases same
    exact json_failsClosed answered
  · have unanswered : (rawOf readMembers text).bind RawAssessment.assessment = none := by
      rw [Option.eq_none_iff_forall_ne_some]
      intro assessment answered
      obtain ⟨raw, there, names⟩ := Option.bind_eq_some_iff.mp answered
      exact structured ⟨raw, there, Option.isSome_iff_exists.mpr ⟨assessment, names⟩⟩
    have positions : replyOf readMembers text = freeReply (upper text) := by
      unfold replyOf
      cases there : rawOf readMembers text with
      | none => rfl
      | some raw =>
        rw [Option.filter_some, if_neg fun names => structured ⟨raw, there, names⟩]
    rw [unanswered, positions]
    dsimp only
    cases banded : parseRiskBand text with
    | none =>
      refine iff_of_true ?_ (Or.inr (Or.inl rfl))
      intro assessment same
      cases same
    | some band =>
      have severest := parseRiskBand_eq_some_iff.mp banded
      cases read : parseAuthorizationLabeled (upper text) authorizationLabels with
      | none =>
        refine iff_of_true ?_ (Or.inr (Or.inr (Or.inl rfl)))
        intro assessment same
        cases same
      | some authorization =>
        constructor
        · intro closed
          have this := closed _ rfl
          refine Or.inr (Or.inr (Or.inr ⟨?_, ?_, ?_⟩))
          · intro other theSame
            cases banded.symm.trans (parseRiskBand_eq_some_iff.mpr theSame)
            exact this.band
          · intro other speaks
            cases read.symm.trans (parseAuthorizationLabeled_of_speaksOf speaks)
            exact this.authorization
          · intro other _ theSame speaks mayRun
            cases banded.symm.trans (parseRiskBand_eq_some_iff.mpr theSame)
            cases read.symm.trans (parseAuthorizationLabeled_of_speaksOf speaks)
            obtain ⟨reviewer, auto⟩ := exists_decide_auto_iff.mpr mayRun
            exact (this.auto reviewer auto).1
        · rintro (answered | none | torn | orderly) assessment same
          · exact absurd answered structured
          · cases none
          · cases torn
          · cases same
            exact orderly.failsClosed severest (parseAuthorizationLabeled_some read)

theorem authorizationAlone_runs :
    ¬ ∀ assessment, parseAssessment (fun _ => none) "Authorization: high".toList =
        some (.ok assessment) →
      FailsClosed (replyOf (fun _ => none) "Authorization: high".toList)
        assessment.toRiskAssessment := by
  intro closed
  have parsed : parseAssessment (fun _ => none) "Authorization: high".toList =
      some (.ok ⟨⟨.high, .high⟩, none, none⟩) := by decide +kernel
  have outside := (closed _ parsed).band
  revert outside
  decide +kernel

end Ziee.Agent
