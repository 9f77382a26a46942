import Mathlib.Data.List.Chain
import Mathlib.Data.List.Sort
import TradeResearch.Safety.Verification

/-!
# What a certification is worth

`backend/app/safety/lifecycle.py`, with the ceilings of `backend/app/safety/autonomy.py`. Times are
seconds; a moment or a span is written into a text as it is.

* `Found` is what an assessment finds, and `found_assess` that it finds it.
* `Worse` is what makes the evidence of an assessment worse, and `Overturned` where that raises the
  autonomy.
* `revalidated_of_legal` is what the table of transitions promises of a chain of states; `Unmended`
  is when two assessments follow it.
-/

namespace TradeResearch.Safety

/-! ## States and transitions -/

inductive AssuranceStatus where
  | healthy
  | watch
  | degraded
  | critical
  | unknown
  deriving DecidableEq

def AssuranceStatus.blocksAutonomy (s : AssuranceStatus) : Bool :=
  decide (s = .critical ∨ s = .unknown)

inductive CertificationState where
  | notCertified
  | conditionallyCertified
  | certified
  | certificationExpired
  | certificationRevoked
  deriving DecidableEq

inductive LifecycleState where
  | notCertified
  | conditionallyCertified
  | certified
  | monitored
  | degraded
  | suspended
  | certificationExpired
  | certificationRevoked
  | revalidationRequired
  | revalidating
  deriving DecidableEq

namespace LifecycleState

def name : LifecycleState → String
  | notCertified => "NOT_CERTIFIED"
  | conditionallyCertified => "CONDITIONALLY_CERTIFIED"
  | certified => "CERTIFIED"
  | monitored => "MONITORED"
  | degraded => "DEGRADED"
  | suspended => "SUSPENDED"
  | certificationExpired => "CERTIFICATION_EXPIRED"
  | certificationRevoked => "CERTIFICATION_REVOKED"
  | revalidationRequired => "REVALIDATION_REQUIRED"
  | revalidating => "REVALIDATING"

def ofBase : CertificationState → LifecycleState
  | .notCertified => notCertified
  | .conditionallyCertified => conditionallyCertified
  | .certified => certified
  | .certificationExpired => certificationExpired
  | .certificationRevoked => certificationRevoked

end LifecycleState

def transitions : List (LifecycleState × List LifecycleState) :=
  [(.notCertified, [.revalidating]),
    (.conditionallyCertified, [.monitored, .degraded, .suspended, .certificationExpired,
      .certificationRevoked, .revalidationRequired]),
    (.certified, [.monitored, .degraded, .suspended, .certificationExpired,
      .certificationRevoked, .revalidationRequired]),
    (.monitored, [.degraded, .suspended, .certificationExpired, .certificationRevoked,
      .revalidationRequired]),
    (.degraded, [.suspended, .certificationRevoked, .revalidationRequired, .revalidating]),
    (.suspended, [.certificationRevoked, .revalidationRequired, .revalidating]),
    (.certificationExpired, [.revalidationRequired, .revalidating]),
    (.certificationRevoked, [.revalidationRequired]),
    (.revalidationRequired, [.revalidating]),
    (.revalidating, [.certified, .conditionallyCertified, .notCertified, .suspended])]

structure TransitionRefusal where
  frm : LifecycleState
  target : LifecycleState
  reason : String

def checkTransition (frm target : LifecycleState) : Option TransitionRefusal :=
  if frm = target then none
  else
    match transitions.lookup frm with
    | none =>
      some ⟨frm, target,
        s!"{frm.name} is not a state with defined transitions; refusing to guess"⟩
    | some allowed =>
      if target ∈ allowed then none
      else if target = .certified ∨ target = .conditionallyCertified then
        some ⟨frm, target, s!"{frm.name} cannot become {target.name} directly. Certification is " ++
          "regained only through REVALIDATING, and only after the gates pass again -- a " ++
          "condition clearing is not evidence that the thing it broke now works"⟩
      else some ⟨frm, target, s!"{frm.name} does not transition to {target.name}"⟩

def ceilings : List (String × AutonomyLevel) :=
  [("CERTIFIED", .certified), ("MONITORED", .certified), ("CONDITIONALLY_CERTIFIED", .bounded),
    ("DEGRADED", .approval), ("REVALIDATING", .recommend), ("REVALIDATION_REQUIRED", .recommend),
    ("SUSPENDED", .recommend), ("CERTIFICATION_EXPIRED", .recommend),
    ("NOT_CERTIFIED", .observe), ("CERTIFICATION_REVOKED", .observe)]

def ceilingFor (certificationState : String) : AutonomyLevel :=
  (ceilings.lookup certificationState).getD .observe

/-! ## The assessment -/

structure Inputs where
  base : CertificationState
  now : Time
  certifiedAt : Option Time := none
  evidenceAt : Option Time := none
  dimensions : Option (List (String × AssuranceStatus)) := none
  criticalInvariantFailed : Bool := false
  ttl : ℚ := 2592000
  evidenceTtl : ℚ := 86400

structure Assurance where
  state : LifecycleState
  autonomy : AutonomyLevel
  at_ : Time
  certifiedAt : Option Time
  evidenceAt : Option Time
  expiresAt : Option Time
  reasons : List Text
  dimensions : List (String × AssuranceStatus)

namespace Inputs

variable (i : Inputs)

def dims : List (String × AssuranceStatus) := i.dimensions.getD []

def named (which : AssuranceStatus → Bool) : List String :=
  ((i.dims.filter fun d => which d.2).map Prod.fst).insertionSort (· ≤ ·)

def blocking : List String := i.named AssuranceStatus.blocksAutonomy

def unmeasured : List String := i.named fun s => decide (s = .unknown)

def degraded : List String := i.named fun s => decide (s = .degraded)

def joined (names : List String) : String := String.intercalate ", " names

def standing : LifecycleState × Text :=
  (if i.base = .certified then .monitored else .ofBase i.base,
    Text.lit ("certification current, evidence fresh, no dimension blocking. " ++
      "MONITORED rather than CERTIFIED because a certification that is being " ++
      "watched is a different claim from one that was issued and filed"))

def measured : LifecycleState × Text :=
  if i.blocking ≠ [] then
    (.suspended, Text.lit (s!"assurance dimension(s) {joined i.blocking} are CRITICAL or " ++
      "UNKNOWN. UNKNOWN counts the same as CRITICAL here: a dimension nobody could measure " ++
      "is not a dimension that is fine"))
  else if i.degraded ≠ [] then (.degraded, Text.lit (joined i.degraded ++ " degraded"))
  else i.standing

def timed (certifiedAt : Time) : LifecycleState × Text :=
  if certifiedAt + i.ttl ≤ i.now then
    (.certificationExpired, Text.lit "the certification issued at " ++ [.time certifiedAt] ++
      Text.lit " expired at " ++ [.time (certifiedAt + i.ttl)] ++
      Text.lit ". It is not evidence about now")
  else
    match i.evidenceAt with
    | some evidenceAt =>
      if i.evidenceTtl < i.now - evidenceAt then
        (.degraded, Text.lit "the evidence behind the certification was gathered at " ++
          [.time evidenceAt] ++ Text.lit " and is older than " ++ Text.num i.evidenceTtl ++
          Text.lit (". The certificate has not expired; what it rests on has gone stale, which " ++
            "is a different fact and a milder one"))
      else i.measured
    | none =>
      (.degraded, Text.lit ("no evidence timestamp is recorded, so the certification cannot be " ++
        "shown to rest on anything current. Unknown is not healthy"))

def unmeasuredReason (state : LifecycleState) : List Text :=
  if i.unmeasured ≠ [] ∧ state ≠ .suspended ∧ state ≠ .certificationExpired then
    [Text.lit s!"unmeasured dimension(s): {joined i.unmeasured}"]
  else []

end Inputs

def assess (i : Inputs) : Assurance :=
  if i.criticalInvariantFailed = true then
    { state := .certificationRevoked
      autonomy := ceilingFor LifecycleState.certificationRevoked.name
      at_ := i.now
      certifiedAt := i.certifiedAt
      evidenceAt := i.evidenceAt
      expiresAt := none
      reasons := [Text.lit ("a critical safety invariant failed. Certification is revoked " ++
        "outright rather than scored down: an invariant is what every other judgement rests " ++
        "on, and there is no numerical result that survives one being false")]
      dimensions := i.dims }
  else
    match i.certifiedAt with
    | none =>
      { state := .ofBase i.base
        autonomy := ceilingFor (LifecycleState.ofBase i.base).name
        at_ := i.now
        certifiedAt := none
        evidenceAt := i.evidenceAt
        expiresAt := none
        reasons := [Text.lit "no certification has been issued"]
        dimensions := i.dims }
    | some certifiedAt =>
      { state := (i.timed certifiedAt).1
        autonomy := ceilingFor (i.timed certifiedAt).1.name
        at_ := i.now
        certifiedAt := some certifiedAt
        evidenceAt := i.evidenceAt
        expiresAt := some (certifiedAt + i.ttl)
        reasons := (i.timed certifiedAt).2 :: i.unmeasuredReason (i.timed certifiedAt).1
        dimensions := i.dims }

/-! ## What an assessment finds -/

namespace Inputs

variable (i : Inputs)

def Expired : Prop := ∃ certifiedAt ∈ i.certifiedAt, certifiedAt + i.ttl ≤ i.now

def Current : Prop := ∃ certifiedAt ∈ i.certifiedAt, i.now < certifiedAt + i.ttl

def Fresh : Prop := ∃ evidenceAt ∈ i.evidenceAt, i.now - evidenceAt ≤ i.evidenceTtl

def Blocked : Prop := ∃ d ∈ i.dims, d.2.blocksAutonomy = true

def Weakened : Prop := ∃ d ∈ i.dims, d.2 = .degraded

structure Clean : Prop where
  current : i.Current
  fresh : i.Fresh
  unblocked : ¬ i.Blocked
  strong : ¬ i.Weakened

end Inputs

inductive Found (i : Inputs) : LifecycleState → Prop where
  | failed (failed : i.criticalInvariantFailed = true) : Found i .certificationRevoked
  | unissued (sound : i.criticalInvariantFailed = false) (unissued : i.certifiedAt = none) :
      Found i (.ofBase i.base)
  | expired (sound : i.criticalInvariantFailed = false) (expired : i.Expired) :
      Found i .certificationExpired
  | stale (sound : i.criticalInvariantFailed = false) (current : i.Current) (stale : ¬ i.Fresh) :
      Found i .degraded
  | blocked (sound : i.criticalInvariantFailed = false) (current : i.Current) (fresh : i.Fresh)
      (blocked : i.Blocked) : Found i .suspended
  | weakened (sound : i.criticalInvariantFailed = false) (current : i.Current) (fresh : i.Fresh)
      (unblocked : ¬ i.Blocked) (weakened : i.Weakened) : Found i .degraded
  | clean (sound : i.criticalInvariantFailed = false) (clean : i.Clean) :
      Found i (if i.base = .certified then .monitored else .ofBase i.base)

namespace Inputs

variable {i : Inputs}

theorem named_ne_nil_iff {which : AssuranceStatus → Bool} :
    i.named which ≠ [] ↔ ∃ d ∈ i.dims, which d.2 = true := by
  unfold named
  rw [Ne, List.eq_nil_iff_length_eq_zero, List.length_insertionSort, List.length_map,
    ← List.eq_nil_iff_length_eq_zero, List.filter_eq_nil_iff]
  simp only [not_forall, not_not, exists_prop]

theorem blocking_ne_nil_iff : i.blocking ≠ [] ↔ i.Blocked := named_ne_nil_iff

theorem degraded_ne_nil_iff : i.degraded ≠ [] ↔ i.Weakened := by
  unfold degraded Weakened
  rw [named_ne_nil_iff]
  simp only [decide_eq_true_eq]

theorem Expired.not_current (expired : i.Expired) : ¬ i.Current := by
  rintro ⟨certifiedAt, issued, within⟩
  obtain ⟨certifiedAt', issued', out⟩ := expired
  cases Option.mem_unique issued issued'
  exact not_lt.mpr out within

end Inputs

theorem found_measured {i : Inputs} (sound : i.criticalInvariantFailed = false)
    (current : i.Current) (fresh : i.Fresh) : Found i i.measured.1 := by
  unfold Inputs.measured
  split
  · next blocking => exact .blocked sound current fresh (Inputs.blocking_ne_nil_iff.mp blocking)
  · next unblocking =>
    have unblocked : ¬ i.Blocked := fun blocked =>
      unblocking (Inputs.blocking_ne_nil_iff.mpr blocked)
    split
    · next degraded =>
      exact .weakened sound current fresh unblocked (Inputs.degraded_ne_nil_iff.mp degraded)
    · next strong =>
      exact .clean sound ⟨current, fresh, unblocked, fun weakened =>
        strong (Inputs.degraded_ne_nil_iff.mpr weakened)⟩

theorem found_assess (i : Inputs) : Found i (assess i).state := by
  unfold assess
  split
  · next failed => exact .failed failed
  · next sound =>
    have sound : i.criticalInvariantFailed = false := Bool.eq_false_iff.mpr sound
    split
    · next unissued => exact .unissued sound unissued
    · next certifiedAt issued =>
      unfold Inputs.timed
      split
      · next out => exact .expired sound ⟨certifiedAt, issued, out⟩
      · next within =>
        have current : i.Current := ⟨certifiedAt, issued, not_le.mp within⟩
        split
        · next evidenceAt dated =>
          split
          · next old =>
            refine .stale sound current ?_
            rintro ⟨evidenceAt', dated', fresh⟩
            cases Option.mem_unique dated dated'
            exact not_lt.mpr fresh old
          · next fresh => exact found_measured sound current ⟨evidenceAt, dated, not_lt.mp fresh⟩
        · next undated =>
          refine .stale sound current ?_
          rintro ⟨evidenceAt, dated, -⟩
          rw [undated] at dated
          cases dated

theorem autonomy_assess (i : Inputs) :
    (assess i).autonomy = ceilingFor (assess i).state.name := by
  unfold assess
  split
  · rfl
  · split <;> rfl

/-! ## Worse evidence -/

def AssuranceStatus.badness : AssuranceStatus → ℕ
  | healthy => 0
  | watch => 1
  | degraded => 2
  | critical | unknown => 3

structure Worse (i i' : Inputs) : Prop where
  base : i'.base = i.base
  ttl : i'.ttl = i.ttl
  evidenceTtl : i'.evidenceTtl = i.evidenceTtl
  now : i.now ≤ i'.now
  certificate : ∀ issued' ∈ i'.certifiedAt, ∃ issued ∈ i.certifiedAt, issued' ≤ issued
  evidence : ∀ gathered' ∈ i'.evidenceAt, ∃ gathered ∈ i.evidenceAt, gathered' ≤ gathered
  dimensions : ∀ d ∈ i.dims, ∃ d' ∈ i'.dims, d'.1 = d.1 ∧ d.2.badness ≤ d'.2.badness
  failure : i.criticalInvariantFailed = true → i'.criticalInvariantFailed = true

def CertificationState.Certified (s : CertificationState) : Prop :=
  s = .certified ∨ s = .conditionallyCertified

def CertificationState.Closed (s : CertificationState) : Prop :=
  s = .notCertified ∨ s = .certificationRevoked

inductive Overturned (i i' : Inputs) : Prop where
  /-- The certificate is absent, so the base is taken for the state. -/
  | unissued (base : i.base.Certified) (issued : i.certifiedAt ≠ none) (unclean : ¬ i.Clean)
      (sound : i'.criticalInvariantFailed = false) (unissued : i'.certifiedAt = none)
  /-- A dimension blocks, and the evidence is now too old for it to be asked about. -/
  | stale (current : i.Current) (fresh : i.Fresh) (blocked : i.Blocked)
      (sound : i'.criticalInvariantFailed = false) (current' : i'.Current) (stale : ¬ i'.Fresh)
  /-- A base that allows observation only gives way to a state that allows more. -/
  | closed (base : i.base.Closed) (clean : i.Clean) (sound : i'.criticalInvariantFailed = false)
      (issued : i'.certifiedAt ≠ none) (unclean : ¬ i'.Clean)
  /-- A base that has expired gives way to a state that allows more. -/
  | lapsed (base : i.base = .certificationExpired) (clean : i.Clean)
      (sound : i'.criticalInvariantFailed = false) (current' : i'.Current)
      (weak : ¬ i'.Fresh ∨ ¬ i'.Blocked ∧ i'.Weakened)

namespace Worse

theorem expired (worse : Worse i i') (expired : i.Expired) (issued : i'.certifiedAt ≠ none) :
    i'.Expired := by
  obtain ⟨certifiedAt', issued'⟩ := Option.ne_none_iff_exists'.mp issued
  obtain ⟨certifiedAt, was, older⟩ := worse.certificate certifiedAt' issued'
  obtain ⟨certifiedAt₀, was₀, out⟩ := expired
  cases Option.mem_unique was was₀
  refine ⟨certifiedAt', issued', ?_⟩
  rw [worse.ttl]
  exact (add_le_add_left older i.ttl).trans (out.trans worse.now)

theorem current (worse : Worse i i') (current : i'.Current) : i.Current := by
  obtain ⟨certifiedAt', issued', within⟩ := current
  obtain ⟨certifiedAt, was, older⟩ := worse.certificate certifiedAt' issued'
  rw [worse.ttl] at within
  exact ⟨certifiedAt, was, worse.now.trans_lt (within.trans_le (add_le_add_left older i.ttl))⟩

theorem fresh (worse : Worse i i') (fresh : i'.Fresh) : i.Fresh := by
  obtain ⟨evidenceAt', dated', recent⟩ := fresh
  obtain ⟨evidenceAt, dated, older⟩ := worse.evidence evidenceAt' dated'
  rw [worse.evidenceTtl] at recent
  exact ⟨evidenceAt, dated, (sub_le_sub worse.now older).trans recent⟩

theorem blocked (worse : Worse i i') (blocked : i.Blocked) : i'.Blocked := by
  obtain ⟨d, mem, blocks⟩ := blocked
  obtain ⟨d', mem', -, le⟩ := worse.dimensions d mem
  refine ⟨d', mem', ?_⟩
  revert blocks le
  cases d.2 <;> cases d'.2 <;> decide

theorem weakened (worse : Worse i i') (weakened : i.Weakened) : i'.Blocked ∨ i'.Weakened := by
  obtain ⟨d, mem, weak⟩ := weakened
  obtain ⟨d', mem', -, le⟩ := worse.dimensions d mem
  rw [weak] at le
  cases is : d'.2 with
  | degraded => exact .inr ⟨d', mem', is⟩
  | critical | unknown => exact .inl ⟨d', mem', by rw [is]; rfl⟩
  | healthy | watch =>
    rw [is] at le
    exact absurd le (by decide)

theorem clean (worse : Worse i i') (clean : i'.Clean) : i.Clean where
  current := worse.current clean.current
  fresh := worse.fresh clean.fresh
  unblocked := fun blocked => clean.unblocked (worse.blocked blocked)
  strong := fun weakened => (worse.weakened weakened).elim clean.unblocked clean.strong

end Worse

/-! ### What worse evidence does to the autonomy -/

def LifecycleState.allowed (s : LifecycleState) : ℕ := (ceilingFor s.name).rank

theorem rank_autonomy (i : Inputs) : (assess i).autonomy.rank = (assess i).state.allowed := by
  rw [autonomy_assess]
  rfl

theorem Inputs.Current.issued {i : Inputs} (current : i.Current) : i.certifiedAt ≠ none := by
  obtain ⟨certifiedAt, issued, -⟩ := current
  exact Option.ne_none_iff_exists'.mpr ⟨certifiedAt, issued⟩

theorem Inputs.Expired.issued {i : Inputs} (expired : i.Expired) : i.certifiedAt ≠ none := by
  obtain ⟨certifiedAt, issued, -⟩ := expired
  exact Option.ne_none_iff_exists'.mpr ⟨certifiedAt, issued⟩

theorem Found.unique {i : Inputs} {s t : LifecycleState} (found : Found i s) (other : Found i t) :
    s = t := by
  cases found with
  | failed failed => cases other <;> simp_all
  | unissued sound unissued =>
    cases other with
    | failed failed => simp_all
    | unissued => rfl
    | expired _ expired => exact absurd unissued expired.issued
    | stale _ current | blocked _ current | weakened _ current =>
      exact absurd unissued current.issued
    | clean _ clean => exact absurd unissued clean.current.issued
  | expired sound expired =>
    cases other with
    | failed failed => simp_all
    | unissued _ unissued => exact absurd unissued expired.issued
    | expired => rfl
    | stale _ current | blocked _ current | weakened _ current =>
      exact absurd current expired.not_current
    | clean _ clean => exact absurd clean.current expired.not_current
  | stale sound current stale =>
    cases other with
    | failed failed => simp_all
    | unissued _ unissued => exact absurd unissued current.issued
    | expired _ expired => exact absurd current expired.not_current
    | stale => rfl
    | blocked _ _ fresh | weakened _ _ fresh => exact absurd fresh stale
    | clean _ clean => exact absurd clean.fresh stale
  | blocked sound current fresh blocked =>
    cases other with
    | failed failed => simp_all
    | unissued _ unissued => exact absurd unissued current.issued
    | expired _ expired => exact absurd current expired.not_current
    | stale _ _ stale => exact absurd fresh stale
    | blocked => rfl
    | weakened _ _ _ unblocked => exact absurd blocked unblocked
    | clean _ clean => exact absurd blocked clean.unblocked
  | weakened sound current fresh unblocked weakened =>
    cases other with
    | failed failed => simp_all
    | unissued _ unissued => exact absurd unissued current.issued
    | expired _ expired => exact absurd current expired.not_current
    | stale _ _ stale => exact absurd fresh stale
    | blocked _ _ _ blocked => exact absurd blocked unblocked
    | weakened => rfl
    | clean _ clean => exact absurd weakened clean.strong
  | clean sound clean =>
    cases other with
    | failed failed => simp_all
    | unissued _ unissued => exact absurd unissued clean.current.issued
    | expired _ expired => exact absurd clean.current expired.not_current
    | stale _ _ stale => exact absurd clean.fresh stale
    | blocked _ _ _ blocked => exact absurd blocked clean.unblocked
    | weakened _ _ _ _ weakened => exact absurd weakened clean.strong
    | clean => rfl

theorem state_eq {i : Inputs} {s : LifecycleState} (found : Found i s) : (assess i).state = s :=
  (found_assess i).unique found

theorem allowed_standing (base : CertificationState) :
    (if base = .certified then LifecycleState.monitored else .ofBase base).allowed =
      (LifecycleState.ofBase base).allowed := by
  cases base <;> rfl

theorem CertificationState.Closed.allowed {base : CertificationState} (closed : base.Closed) :
    (LifecycleState.ofBase base).allowed = 0 := by
  rcases closed with rfl | rfl <;> rfl

theorem CertificationState.Certified.allowed {base : CertificationState}
    (certified : base.Certified) : 3 ≤ (LifecycleState.ofBase base).allowed := by
  rcases certified with rfl | rfl <;> decide

theorem allowed_of_not_clean {i : Inputs} {s : LifecycleState} (found : Found i s)
    (sound : i.criticalInvariantFailed = false) (issued : i.certifiedAt ≠ none)
    (unclean : ¬ i.Clean) : 1 ≤ s.allowed ∧ s.allowed ≤ 2 := by
  cases found with
  | failed failed => simp_all
  | unissued _ unissued => exact absurd unissued issued
  | expired | stale | blocked | weakened => decide
  | clean _ clean => exact absurd clean unclean

section

theorem Worse.sound (worse : Worse i i') (sound : i'.criticalInvariantFailed = false) :
    i.criticalInvariantFailed = false := by
  refine Bool.eq_false_iff.mpr fun failed => ?_
  rw [worse.failure failed] at sound
  cases sound

theorem Worse.issued (worse : Worse i i') (issued : i'.certifiedAt ≠ none) :
    i.certifiedAt ≠ none := by
  obtain ⟨certifiedAt', issued'⟩ := Option.ne_none_iff_exists'.mp issued
  obtain ⟨certifiedAt, was, -⟩ := worse.certificate certifiedAt' issued'
  exact Option.ne_none_iff_exists'.mpr ⟨certifiedAt, was⟩

theorem Overturned.raised (worse : Worse i i') (overturned : Overturned i i') :
    (assess i).state.allowed < (assess i').state.allowed := by
  cases overturned with
  | unissued base issued unclean sound unissued =>
    have before := allowed_of_not_clean (found_assess i) (worse.sound sound) issued unclean
    have certified := base.allowed
    rw [state_eq (.unissued sound unissued), worse.base]
    omega
  | stale current fresh blocked sound current' stale =>
    rw [state_eq (.blocked (worse.sound sound) current fresh blocked),
      state_eq (.stale sound current' stale)]
    decide
  | closed base clean sound issued unclean =>
    have after := allowed_of_not_clean (found_assess i') sound issued unclean
    rw [state_eq (.clean (worse.sound sound) clean), allowed_standing, base.allowed]
    omega
  | lapsed base clean sound current' weak =>
    have before : (assess i).state.allowed = 1 := by
      rw [state_eq (.clean (worse.sound sound) clean), allowed_standing, base]
      rfl
    have after : (assess i').state = .degraded := by
      by_cases fresh : i'.Fresh
      · have weak := weak.resolve_left (not_not.mpr fresh)
        exact state_eq (.weakened sound current' fresh weak.1 weak.2)
      · exact state_eq (.stale sound current' fresh)
    rw [before, after]
    decide

theorem allowed_of_clean {n : ℕ} (sound : i.criticalInvariantFailed = false) (clean : i.Clean)
    (closed : ¬ i.base.Closed) (small : n ≤ 1 ∨ i.base ≠ .certificationExpired ∧ n ≤ 3) :
    n ≤ (assess i).state.allowed := by
  rw [state_eq (.clean sound clean), allowed_standing]
  cases is : i.base with
  | notCertified => exact absurd (.inl is) closed
  | certificationRevoked => exact absurd (.inr is) closed
  | certificationExpired =>
    exact small.elim id fun lapsed => absurd is lapsed.1
  | certified =>
    have four : (LifecycleState.ofBase .certified).allowed = 4 := rfl
    omega
  | conditionallyCertified =>
    have three : (LifecycleState.ofBase .conditionallyCertified).allowed = 3 := rfl
    omega

theorem Worse.one_le (worse : Worse i i') (kept : ¬ Overturned i i')
    (sound : i'.criticalInvariantFailed = false) (issued : i'.certifiedAt ≠ none)
    (unclean : ¬ i'.Clean) : 1 ≤ (assess i).state.allowed := by
  by_cases clean : i.Clean
  · exact allowed_of_clean (worse.sound sound) clean
      (fun closed => kept (.closed closed clean sound issued unclean)) (.inl (Nat.le_refl _))
  · exact (allowed_of_not_clean (found_assess i) (worse.sound sound) (worse.issued issued) clean).1

theorem Worse.two_le (worse : Worse i i') (kept : ¬ Overturned i i')
    (sound : i'.criticalInvariantFailed = false) (current : i'.Current)
    (weak : ¬ i'.Fresh ∨ ¬ i'.Blocked ∧ i'.Weakened) (unclean : ¬ i'.Clean)
    (unblocked : ¬ (i.Current ∧ i.Fresh ∧ i.Blocked)) : 2 ≤ (assess i).state.allowed := by
  have found := found_assess i
  have before := worse.sound sound
  by_cases clean : i.Clean
  · have closed : ¬ i.base.Closed := fun closed =>
      kept (.closed closed clean sound current.issued unclean)
    have lapsed : i.base ≠ .certificationExpired := fun lapsed =>
      kept (.lapsed lapsed clean sound current weak)
    exact allowed_of_clean before clean closed (.inr ⟨lapsed, by decide⟩)
  · generalize (assess i).state = s at found
    cases found with
    | failed failed => simp_all
    | unissued _ unissued => exact absurd unissued (worse.issued current.issued)
    | expired _ expired => exact absurd current (worse.expired expired current.issued).not_current
    | blocked _ current fresh blocked => exact absurd ⟨current, fresh, blocked⟩ unblocked
    | stale | weakened => decide
    | clean _ stands => exact absurd stands clean

theorem Worse.allowed_le (worse : Worse i i') (kept : ¬ Overturned i i') :
    (assess i').state.allowed ≤ (assess i).state.allowed := by
  have found := found_assess i'
  generalize (assess i').state = s' at found ⊢
  cases found with
  | failed => exact Nat.zero_le _
  | unissued sound unissued =>
    rw [worse.base]
    by_cases issued : i.certifiedAt = none
    · rw [state_eq (.unissued (worse.sound sound) issued)]
    · by_cases clean : i.Clean
      · rw [state_eq (.clean (worse.sound sound) clean), allowed_standing]
      · have before := allowed_of_not_clean (found_assess i) (worse.sound sound) issued clean
        cases base : i.base with
        | notCertified | certificationRevoked => exact Nat.zero_le _
        | certificationExpired => exact before.1
        | certified => exact absurd (.unissued (.inl base) issued clean sound unissued) kept
        | conditionallyCertified =>
          exact absurd (.unissued (.inr base) issued clean sound unissued) kept
  | expired sound expired =>
    exact worse.one_le kept sound expired.issued fun clean => expired.not_current clean.current
  | blocked sound current fresh blocked =>
    exact worse.one_le kept sound current.issued fun clean => clean.unblocked blocked
  | stale sound current stale =>
    exact worse.two_le kept sound current (.inl stale) (fun clean => stale clean.fresh)
      fun was => kept (.stale was.1 was.2.1 was.2.2 sound current stale)
  | weakened sound current fresh unblocked weakened =>
    exact worse.two_le kept sound current (.inr ⟨unblocked, weakened⟩)
      (fun clean => clean.strong weakened) fun was => unblocked (worse.blocked was.2.2)
  | clean sound clean =>
    rw [state_eq (.clean (worse.sound sound) (worse.clean clean)), worse.base]

theorem Worse.rank_le_iff (worse : Worse i i') :
    (assess i').autonomy.rank ≤ (assess i).autonomy.rank ↔ ¬ Overturned i i' := by
  rw [rank_autonomy, rank_autonomy]
  exact ⟨fun le overturned => not_lt.mpr le (overturned.raised worse), worse.allowed_le⟩

end

structure Inputs.Grounded (i : Inputs) : Prop where
  current : i.Current
  fresh : i.Fresh
  unblocked : ¬ i.Blocked

structure Inputs.Unfounded (i : Inputs) : Prop where
  sound : i.criticalInvariantFailed = false
  unissued : i.certifiedAt = none
  base : i.base.Certified

theorem grounded_iff (i : Inputs) :
    (AutonomyLevel.bounded.rank ≤ (assess i).autonomy.rank → i.Grounded) ↔ ¬ i.Unfounded := by
  rw [rank_autonomy]
  constructor
  · rintro grounded ⟨sound, unissued, base⟩
    refine (grounded ?_).current.issued unissued
    rw [state_eq (.unissued sound unissued)]
    exact base.allowed
  · intro founded high
    have found := found_assess i
    generalize (assess i).state = s at found high
    cases found with
    | failed | expired | stale | blocked | weakened => exact absurd high (by decide)
    | clean _ clean => exact ⟨clean.current, clean.fresh, clean.unblocked⟩
    | unissued sound unissued =>
      refine absurd ⟨sound, unissued, ?_⟩ founded
      cases base : i.base with
      | certified => exact .inl rfl
      | conditionallyCertified => exact .inr rfl
      | notCertified | certificationExpired | certificationRevoked =>
        rw [base] at high
        exact absurd high (by decide)

namespace LifecycleState

def Standing (s : LifecycleState) : Prop :=
  s = .certified ∨ s = .conditionallyCertified ∨ s = .monitored

def Legal (frm target : LifecycleState) : Prop := checkTransition frm target = none

instance (frm target : LifecycleState) : Decidable (Legal frm target) :=
  decidable_of_iff ((checkTransition frm target).isNone = true) Option.isNone_iff_eq_none

instance (s : LifecycleState) : Decidable s.Standing := by
  unfold Standing
  infer_instance

theorem Legal.not_standing {s t : LifecycleState} (legal : Legal s t) (lost : ¬ s.Standing)
    (other : s ≠ .revalidating) : ¬ t.Standing := by
  revert legal lost other
  cases s <;> cases t <;> decide

theorem revalidated_of_legal {between : List LifecycleState} {lost regained : LifecycleState}
    (legal : (lost :: (between ++ [regained])).IsChain Legal) (was : ¬ lost.Standing)
    (now : regained.Standing) : .revalidating ∈ lost :: between := by
  induction between generalizing lost with
  | nil =>
    rw [List.nil_append, List.isChain_pair] at legal
    by_contra other
    exact legal.not_standing was (fun is => other (is ▸ List.mem_singleton_self _)) now
  | cons s between ih =>
    rw [List.cons_append, List.isChain_cons_cons] at legal
    by_cases revalidating : lost = .revalidating
    · exact revalidating ▸ List.mem_cons_self ..
    · exact List.mem_cons_of_mem _ (ih legal.2 (legal.1.not_standing was revalidating))

end LifecycleState

/-! ## One assessment after another -/

namespace Inputs

variable (i : Inputs)

structure Shows (base : CertificationState) : Prop where
  sound : i.criticalInvariantFailed = false
  base : i.base = base
  plain : i.certifiedAt = none ∨ i.Clean

def Revoked : Prop := i.criticalInvariantFailed = true ∨ i.Shows .certificationRevoked

def Lapsed : Prop :=
  i.criticalInvariantFailed = false ∧ i.Expired ∨ i.Shows .certificationExpired

def Suspended : Prop := i.criticalInvariantFailed = false ∧ i.Current ∧ i.Fresh ∧ i.Blocked

def Degraded : Prop :=
  i.criticalInvariantFailed = false ∧ i.Current ∧ (¬ i.Fresh ∨ ¬ i.Blocked ∧ i.Weakened)

def Filed : Prop :=
  i.criticalInvariantFailed = false ∧ i.certifiedAt = none ∧ i.base = .certified

end Inputs

structure Unmended (i i' : Inputs) : Prop where
  revoked : i.Revoked → i'.Revoked
  lapsed : i.Lapsed → i'.Lapsed
  suspended : i.Suspended → i'.Suspended ∨ i'.Revoked
  degraded : i.Degraded → i'.Degraded ∨ i'.Suspended ∨ i'.Revoked
  uncertified : i.Shows .notCertified ↔ i'.Shows .notCertified
  conditional : i'.Shows .conditionallyCertified → i.Shows .conditionallyCertified
  filed : i'.Filed → i.Filed

section

theorem state_of_shows {base : CertificationState} (shows_ : i.Shows base)
    (other : base ≠ .certified) : (assess i).state = .ofBase base := by
  obtain ⟨sound, rfl, unissued | clean⟩ := shows_
  · exact state_eq (.unissued sound unissued)
  · rw [state_eq (.clean sound clean), if_neg other]

theorem ofBase_inj {base base' : CertificationState}
    (same : LifecycleState.ofBase base = .ofBase base') : base = base' := by
  revert same
  cases base <;> cases base' <;> decide

theorem state_eq_ofBase_iff (base : CertificationState) (other : base ≠ .certified) :
    (assess i).state = .ofBase base ↔
      i.Shows base ∨ base = .certificationRevoked ∧ i.criticalInvariantFailed = true ∨
        base = .certificationExpired ∧ i.criticalInvariantFailed = false ∧ i.Expired := by
  constructor
  · intro is
    have found := found_assess i
    generalize (assess i).state = s at found is
    cases found with
    | failed failed =>
      cases base with
      | certificationRevoked => exact .inr (.inl ⟨rfl, failed⟩)
      | _ => cases is
    | unissued sound unissued => exact .inl ⟨sound, ofBase_inj is, .inl unissued⟩
    | expired sound expired =>
      cases base with
      | certificationExpired => exact .inr (.inr ⟨rfl, sound, expired⟩)
      | _ => cases is
    | stale | blocked | weakened => cases base <;> cases is
    | clean sound clean =>
      split at is
      · cases base <;> cases is
      · exact .inl ⟨sound, ofBase_inj is, .inr clean⟩
  · rintro (shows_ | ⟨rfl, failed⟩ | ⟨rfl, sound, expired⟩)
    · exact state_of_shows shows_ other
    · exact state_eq (.failed failed)
    · exact state_eq (.expired sound expired)

theorem state_revoked_iff : (assess i).state = .certificationRevoked ↔ i.Revoked := by
  refine (state_eq_ofBase_iff .certificationRevoked (by decide)).trans ?_
  simp only [true_and, reduceCtorEq, false_and, or_false]
  exact or_comm

theorem state_expired_iff : (assess i).state = .certificationExpired ↔ i.Lapsed := by
  refine (state_eq_ofBase_iff .certificationExpired (by decide)).trans ?_
  simp only [true_and, reduceCtorEq, false_and, false_or]
  exact or_comm

theorem state_notCertified_iff : (assess i).state = .notCertified ↔ i.Shows .notCertified := by
  refine (state_eq_ofBase_iff .notCertified (by decide)).trans ?_
  simp only [reduceCtorEq, false_and, or_false]

theorem state_conditional_iff :
    (assess i).state = .conditionallyCertified ↔ i.Shows .conditionallyCertified := by
  refine (state_eq_ofBase_iff .conditionallyCertified (by decide)).trans ?_
  simp only [reduceCtorEq, false_and, or_false]

theorem state_certified_iff : (assess i).state = .certified ↔ i.Filed := by
  constructor
  · intro is
    have found := found_assess i
    generalize (assess i).state = s at found is
    cases found with
    | failed | expired | stale | blocked | weakened => cases is
    | unissued sound unissued => exact ⟨sound, unissued, ofBase_inj is⟩
    | clean =>
      split at is
      · cases is
      · next other => exact absurd (ofBase_inj is) other
  · rintro ⟨sound, unissued, base⟩
    rw [state_eq (.unissued sound unissued), base]
    rfl

theorem state_suspended_iff : (assess i).state = .suspended ↔ i.Suspended := by
  constructor
  · intro is
    have found := found_assess i
    generalize (assess i).state = s at found is
    cases found with
    | failed | expired | stale | weakened => cases is
    | unissued =>
      cases base : i.base <;> rw [base] at is <;> cases is
    | blocked sound current fresh blocked => exact ⟨sound, current, fresh, blocked⟩
    | clean =>
      cases base : i.base <;> rw [base] at is <;> cases is
  · rintro ⟨sound, current, fresh, blocked⟩
    exact state_eq (.blocked sound current fresh blocked)

theorem state_degraded_iff : (assess i).state = .degraded ↔ i.Degraded := by
  constructor
  · intro is
    have found := found_assess i
    generalize (assess i).state = s at found is
    cases found with
    | failed | expired | blocked => cases is
    | unissued =>
      cases base : i.base <;> rw [base] at is <;> cases is
    | stale sound current stale => exact ⟨sound, current, .inl stale⟩
    | weakened sound current fresh unblocked weakened =>
      exact ⟨sound, current, .inr ⟨unblocked, weakened⟩⟩
    | clean =>
      cases base : i.base <;> rw [base] at is <;> cases is
  · rintro ⟨sound, current, weak⟩
    by_cases fresh : i.Fresh
    · have weak := weak.resolve_left (not_not.mpr fresh)
      exact state_eq (.weakened sound current fresh weak.1 weak.2)
    · exact state_eq (.stale sound current fresh)

theorem state_ne (i : Inputs) :
    (assess i).state ≠ .revalidating ∧ (assess i).state ≠ .revalidationRequired := by
  have found := found_assess i
  generalize (assess i).state = s at found
  cases found with
  | failed | expired | stale | blocked | weakened => decide
  | unissued | clean => cases i.base <;> decide

theorem LifecycleState.legal_iff {s t : LifecycleState}
    (from_ : s ≠ .revalidating ∧ s ≠ .revalidationRequired)
    (into : t ≠ .revalidating ∧ t ≠ .revalidationRequired) :
    Legal s t ↔ (s = .certificationRevoked → t = .certificationRevoked) ∧
      (s = .certificationExpired → t = .certificationExpired) ∧
      (s = .suspended → t = .suspended ∨ t = .certificationRevoked) ∧
      (s = .degraded → t = .degraded ∨ t = .suspended ∨ t = .certificationRevoked) ∧
      (s = .notCertified ↔ t = .notCertified) ∧
      (t = .conditionallyCertified → s = .conditionallyCertified) ∧
      (t = .certified → s = .certified) := by
  revert from_ into
  cases s <;> cases t <;> decide

theorem legal_iff_unmended :
    LifecycleState.Legal (assess i).state (assess i').state ↔ Unmended i i' := by
  rw [LifecycleState.legal_iff (state_ne i) (state_ne i')]
  simp only [state_revoked_iff, state_expired_iff, state_suspended_iff, state_degraded_iff,
    state_notCertified_iff, state_conditional_iff, state_certified_iff]
  constructor
  · rintro ⟨revoked, lapsed, suspended, degraded, uncertified, conditional, filed⟩
    exact ⟨revoked, lapsed, suspended, degraded, uncertified, conditional, filed⟩
  · rintro ⟨revoked, lapsed, suspended, degraded, uncertified, conditional, filed⟩
    exact ⟨revoked, lapsed, suspended, degraded, uncertified, conditional, filed⟩

end

def statesOf (calls : List Inputs) : List LifecycleState := calls.map fun i => (assess i).state

structure Lawful (calls : List Inputs) : Prop where
  legal : (statesOf calls).IsChain LifecycleState.Legal
  regained : ∀ before lost between regained after,
    statesOf calls = before ++ lost :: (between ++ regained :: after) → ¬ lost.Standing →
      regained.Standing → .revalidating ∈ lost :: between

theorem lawful_iff (calls : List Inputs) : Lawful calls ↔ calls.IsChain Unmended := by
  have chain : (statesOf calls).IsChain LifecycleState.Legal ↔ calls.IsChain Unmended := by
    unfold statesOf
    rw [List.isChain_map]
    simp only [legal_iff_unmended]
  refine ⟨fun lawful => chain.mp lawful.legal, fun unmended => ⟨chain.mpr unmended, ?_⟩⟩
  intro before lost between regained after split was now
  have legal := chain.mpr unmended
  have shape : before ++ lost :: (between ++ regained :: after) =
      (before ++ lost :: (between ++ [regained])) ++ after := by simp
  rw [split, shape] at legal
  exact LifecycleState.revalidated_of_legal
    (List.isChain_append.mp (List.isChain_append.mp legal).1).2.1 was now

/-- Worse evidence raises the autonomy exactly where it overturns the assessment; autonomy without a
person rests on a certificate exactly where the base does not stand for one; and assessments follow
the table exactly where nothing is mended between two of them. -/
theorem assess_iff (i : Inputs) (calls : List Inputs) :
    (∀ i', Worse i i' →
      ((assess i').autonomy.rank ≤ (assess i).autonomy.rank ↔ ¬ Overturned i i')) ∧
    ((AutonomyLevel.bounded.rank ≤ (assess i).autonomy.rank → i.Grounded) ↔ ¬ i.Unfounded) ∧
    (Lawful calls ↔ calls.IsChain Unmended) :=
  ⟨fun _ worse => worse.rank_le_iff, grounded_iff i, lawful_iff calls⟩

private def assessed (evidenceAt : Option Time) (risk : AssuranceStatus) : Inputs :=
  { base := .certified, now := 10, certifiedAt := some 0, evidenceAt
    dimensions := some [("risk", risk)] }

/-- A dimension that nobody measured suspends, and losing the evidence then restores an approval; a
certificate that was never issued allows everything; and evidence that is gathered again restores
everything at once. -/
theorem not_forall_assess :
    (∃ i i', Worse i i' ∧ (assess i).autonomy = .recommend ∧ (assess i').autonomy = .approval) ∧
    (∃ i, (assess i).autonomy = .certified ∧ i.certifiedAt = none) ∧
    ∃ calls, statesOf calls = [.degraded, .monitored] ∧ ¬ Lawful calls := by
  refine ⟨⟨assessed (some 10) .unknown, assessed none .unknown, ?_, by decide +kernel,
    by decide +kernel⟩, ⟨{ base := .certified, now := 10 }, by decide +kernel, rfl⟩,
    [assessed none .healthy, assessed (some 10) .healthy], by decide +kernel, fun lawful => ?_⟩
  · exact
      { base := rfl
        ttl := rfl
        evidenceTtl := rfl
        now := le_refl _
        certificate := fun issued' mem => ⟨issued', mem, le_refl _⟩
        evidence := fun gathered' mem => by cases mem
        dimensions := fun d mem => ⟨d, mem, rfl, Nat.le_refl _⟩
        failure := id }
  · have legal : LifecycleState.Legal .degraded .monitored := by
      have states : statesOf [assessed none .healthy, assessed (some 10) .healthy] =
          [.degraded, .monitored] := by decide +kernel
      have chain := lawful.legal
      rw [states] at chain
      exact List.isChain_pair.mp chain
    exact absurd legal (by decide)

end TradeResearch.Safety
