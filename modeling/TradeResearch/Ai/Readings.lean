import TradeResearch.Ai.Integration
import TradeResearch.Lib.Fallible

/-!
# What the stages read

When the stages before the mode end with readings, and when an exit leaves them, in terms of what
the resolver and the models do.

* `gather_ends`: they are the readings of the models that are served and heard, or an exit was
  raised at one of them.
-/

namespace TradeResearch.Ai.Integration

open Datasets

section Inputs

variable (s : Service) (c : SignalContext) (g : AiStrategyConfig)

def Served (r : ModelRequirement) : Prop :=
  (∃ m, s.resolve r = .ok m ∧ compatibility m g = .ok none) ∨
    r.optional = true ∧
      ((∃ exn, s.resolve r = .error exn ∧ exn.base = .integrationError) ∨
        ∃ m why, s.resolve r = .ok m ∧ compatibility m g = .ok (some why))

def offer (r : ModelRequirement) : Option Model :=
  match s.resolve r with
  | .error _ => none
  | .ok m =>
    match compatibility m g with
    | .ok none => some m
    | _ => none

def offered : List (ModelRequirement × Model) :=
  g.models.flatMap fun r => ((offer s g r).map fun m => (r, m)).toList

def Heard (row : FeatureRow) (x : ModelRequirement × Model) : Prop :=
  ∃ p record, x.2.predict row (keywords c g) = .ok p ∧ p.asDict = .ok record ∧
    (p.status ≠ .ok ∧ x.1.optional = true ∨
      p.status = .ok ∧ predictionIsUsable p = none ∧
        (x.2.key ∈ probabilityKeys → ∃ explanation, x.2.explanation row = .ok explanation))

def hear (row : FeatureRow) (said : Said) (x : ModelRequirement × Model) : Said :=
  match x.2.predict row (keywords c g) with
  | .error _ => said
  | .ok p =>
    let records := said.records ++ p.asDict.toOption.toList
    if p.status = .ok then
      { readings := said.readings.absorb x.2 p
        records
        explanation := (explained row x.2 said.explanation).toOption.getD [] }
    else { said with records }

def heard (row : FeatureRow) : Said := (offered s g).foldl (hear c g row) {}

structure Reads (row : FeatureRow) : Prop where
  causal : barsAreCausal c = none
  served : ∀ r ∈ g.models, Served s g r
  some : offered s g ≠ []
  computed : featuresAtSignal s.maths c (wanted (offered s g)) = .ok row
  all : ∀ x ∈ offered s g, Heard c g row x
  prompt : g.thresholds.maximumLatencyMs.lt (.real (elapsedMs s 5)) = false
  probable : g.mode.canReject = true → (heard s c g row).readings.probability ≠ none

def ResolverExits (r : ModelRequirement) : Prop :=
  (∃ exn, s.resolve r = .error exn ∧ exn.base = .exit) ∨
    ∃ m exn, s.resolve r = .ok m ∧ m.fitted = .error exn ∧ exn.base = .exit

def ModelExits (row : FeatureRow) (x : ModelRequirement × Model) : Prop :=
  (∃ exn, x.2.predict row (keywords c g) = .error exn ∧ exn.base = .exit) ∨
    ∃ p, x.2.predict row (keywords c g) = .ok p ∧
      ((∃ exn, p.asDict = .error exn ∧ exn.base = .exit) ∨
        ∃ record exn, p.asDict = .ok record ∧ p.status = .ok ∧ predictionIsUsable p = none ∧
          x.2.key ∈ probabilityKeys ∧ x.2.explanation row = .error exn ∧ exn.base = .exit)

def Exits : Prop :=
  barsAreCausal c = none ∧
    ((∃ before r after, g.models = before ++ r :: after ∧ (∀ b ∈ before, Served s g b) ∧
        ResolverExits s r) ∨
      (∀ r ∈ g.models, Served s g r) ∧
        ∃ row, featuresAtSignal s.maths c (wanted (offered s g)) = .ok row ∧
          ∃ before x after, offered s g = before ++ x :: after ∧
            (∀ b ∈ before, Heard c g row b) ∧ ModelExits c g row x)

end Inputs

def Stop.Exits : Stop → Prop
  | .failed _ _ _ _ => False
  | .raised exn _ => exn.base = .exit

def Stop.Fair : Stop → Prop
  | .failed status _ _ _ => status ≠ "OK" ∧ status ≠ "DISABLED"
  | .raised _ _ => True

def Ends {α : Type} (goes : Prop) (value : α) (exits : Prop) (x : Except Stop α) : Prop :=
  goes ∧ ¬ exits ∧ x = .ok value ∨ ∃ e, x = .error e ∧ ¬ goes ∧ e.Fair ∧ (e.Exits ↔ exits)

namespace Ends

variable {goes exits : Prop} {value : α}

theorem eq_ok (ends : Ends goes value exits x) {a : α} : x = .ok a ↔ goes ∧ a = value := by
  rcases ends with ⟨goes, -, rfl⟩ | ⟨e, rfl, stays, -⟩
  · constructor
    · intro same
      cases same
      exact ⟨goes, rfl⟩
    · rintro ⟨-, rfl⟩
      rfl
  · constructor
    · intro same
      cases same
    · exact fun goes => absurd goes.1 stays

theorem eq_error (ends : Ends goes value exits x) {e : Stop} (is : x = .error e) :
    ¬ goes ∧ e.Fair ∧ (e.Exits ↔ exits) := by
  rcases ends with ⟨-, -, rfl⟩ | ⟨e', rfl, stopped⟩
  · cases is
  · cases is
    exact stopped

theorem not_exits (ends : Ends goes value exits x) (through : goes) : ¬ exits := by
  rcases ends with ⟨-, none, -⟩ | ⟨e, -, stays, -⟩
  · exact none
  · exact absurd through stays

theorem exists_exit (ends : Ends goes value exits x) (exit : exits) :
    ∃ e, x = .error e ∧ e.Exits := by
  rcases ends with ⟨-, none, -⟩ | ⟨e, is, -, -, iff⟩
  · exact absurd exit none
  · exact ⟨e, is, iff.mpr exit⟩

theorem bind {β : Type} {goes' exits' : Prop} {value' : β} {f : α → Except Stop β}
    (first : Ends goes value exits x) (second : Ends goes' value' exits' (f value)) :
    Ends (goes ∧ goes') value' (exits ∨ goes ∧ exits') (x >>= f) := by
  rcases first with ⟨went, none, rfl⟩ | ⟨e, rfl, stays, fair, iff⟩
  · rw [Fallible.ok_bind]
    rcases second with ⟨went', none', is⟩ | ⟨e, is, stays, fair, iff⟩
    · exact Or.inl ⟨⟨went, went'⟩, fun exit => exit.elim none fun later => none' later.2, is⟩
    · refine Or.inr ⟨e, is, fun both => stays both.2, fair, iff.trans ?_⟩
      exact ⟨fun exit => Or.inr ⟨went, exit⟩, fun exit => exit.elim (absurd · none) And.right⟩
  · refine Or.inr ⟨e, rfl, fun both => stays both.1, fair, iff.trans ?_⟩
    exact ⟨Or.inl, fun exit => exit.elim id fun later => absurd later.1 stays⟩

theorem foldlM {β : Type} {goes exits : β → Prop} {next : α → β → α} {f : α → β → Except Stop α}
    (ends : ∀ a x, Ends (goes x) (next a x) (exits x) (f a x)) (xs : List β) (a : α) :
    Ends (∀ x ∈ xs, goes x) (xs.foldl next a)
      (∃ before x after, xs = before ++ x :: after ∧ (∀ b ∈ before, goes b) ∧ exits x)
      (xs.foldlM f a) := by
  have through (ys : List β) (b : α) :
      ys.foldlM f a = .ok b ↔ (∀ x ∈ ys, goes x) ∧ b = ys.foldl next a :=
    Fallible.foldlM_eq_ok fun a x _ => (ends a x).eq_ok
  cases ended : xs.foldlM f a with
  | ok b =>
    obtain ⟨all, rfl⟩ := (through xs b).mp ended
    refine Or.inl ⟨all, ?_, rfl⟩
    rintro ⟨before, x, after, rfl, -, exit⟩
    exact (ends a x).not_exits (all x (List.mem_append_right before List.mem_cons_self)) exit
  | error e =>
    obtain ⟨before, x, after, b, rfl, went, stopped⟩ := Fallible.foldlM_eq_error.mp ended
    obtain ⟨stays, fair, iff⟩ := (ends b x).eq_error stopped
    refine Or.inr ⟨e, rfl, ?_, fair, ?_⟩
    · exact fun all => stays (all x (List.mem_append_right before List.mem_cons_self))
    · constructor
      · exact fun exit => ⟨before, x, after, rfl, ((through before b).mp went).1, iff.mp exit⟩
      · rintro ⟨before', x', after', is, went', exit⟩
        obtain ⟨e', stopped', exits'⟩ := (ends (before'.foldl next a) x').exists_exit exit
        -- the loop has one end
        have ended' := Fallible.foldlM_eq_error.mpr
          ⟨before', x', after', _, is, (through before' _).mpr ⟨went', rfl⟩, stopped'⟩
        rw [ended] at ended'
        cases ended'
        exact exits'

end Ends

theorem PredictionStatus.name_fair {status : PredictionStatus} (declined : status ≠ .ok) :
    status.name ≠ "OK" ∧ status.name ≠ "DISABLED" := by
  cases status with
  | ok => exact absurd rfl declined
  | insufficientData | modelInputError | featureVersionMismatch | staleFeatures
  | modelUnavailable =>
      decide

variable {s : Service} {c : SignalContext}

theorem compatibility_eq_error {m : Model} {exn : Exn} :
    compatibility m g = .error exn ↔ m.fitted = .error exn := by
  unfold compatibility
  rw [Fallible.bind_eq_error, or_iff_left]
  rintro ⟨fitted, -, failed⟩
  split at failed
  · cases failed
  · split at failed
    · cases failed
    · split at failed
      · cases failed
      · cases failed

theorem resolveOne_ends (r : ModelRequirement) :
    Ends (Served s g r) (offer s g r) (ResolverExits s r) (resolveOne s g r) := by
  cases resolved : s.resolve r with
  | error exn =>
    by_cases refused : exn.base = .integrationError
    · cases optional : r.optional with
      | true =>
        left
        simp [Served, resolveOne, offer, ResolverExits, resolved, refused, optional]
      | false =>
        right
        simp [Served, resolveOne, ResolverExits, Stop.Fair, Stop.Exits, resolved, refused, optional]
    · right
      simp [Served, resolveOne, ResolverExits, Stop.Fair, Stop.Exits, resolved, refused]
  | ok m =>
    cases fits : compatibility m g with
    | error exn =>
      right
      have fitted := compatibility_eq_error.mp fits
      simp [Served, resolveOne, ResolverExits, Stop.Fair, Stop.Exits, resolved, fits, fitted]
    | ok why =>
      have returned : ∀ exn, m.fitted ≠ .error exn := by
        intro exn raised
        rw [compatibility_eq_error.mpr raised] at fits
        cases fits
      cases why with
      | none =>
        left
        simp [Served, resolveOne, offer, ResolverExits, resolved, fits, returned]
      | some why =>
        cases optional : r.optional with
        | true =>
          left
          simp [Served, resolveOne, offer, ResolverExits, resolved, fits, optional, returned]
        | false =>
          right
          simp [Served, resolveOne, ResolverExits, Stop.Fair, Stop.Exits, resolved, fits, optional,
            returned]

theorem resolveNext_ends (resolved : List (ModelRequirement × Model)) (r : ModelRequirement) :
    Ends (Served s g r) (resolved ++ ((offer s g r).map fun m => (r, m)).toList)
      (ResolverExits s r) (resolveNext s g resolved r) := by
  unfold resolveNext
  rcases resolveOne_ends (s := s) (g := g) r with ⟨served, stays, is⟩ | ⟨e, is, stopped⟩
  · rw [is]
    exact Or.inl ⟨served, stays, rfl⟩
  · rw [is]
    exact Or.inr ⟨e, rfl, stopped⟩

theorem resolved_ends :
    Ends (∀ r ∈ g.models, Served s g r) (offered s g)
      (∃ before r after, g.models = before ++ r :: after ∧ (∀ b ∈ before, Served s g b) ∧
        ResolverExits s r)
      (g.models.foldlM (resolveNext s g) []) := by
  have loop := Ends.foldlM (resolveNext_ends (s := s) (g := g)) g.models []
  rwa [← List.flatMap_eq_foldl] at loop

theorem ask_ends (row : FeatureRow) (said : Said) (x : ModelRequirement × Model) :
    Ends (Heard c g row x) (hear c g row said x) (ModelExits c g row x) (ask c g row said x) := by
  cases predicted : x.2.predict row (keywords c g) with
  | error exn =>
    right
    by_cases invalid : exn.base = .modelError
    · simp [Heard, ask, ModelExits, Stop.Fair, Stop.Exits, predicted, invalid]
    · simp [Heard, ask, ModelExits, Stop.Fair, Stop.Exits, predicted, invalid]
  | ok p =>
    cases written : p.asDict with
    | error exn =>
      right
      simp [Heard, ask, ModelExits, Stop.Fair, Stop.Exits, predicted, written]
    | ok record =>
      by_cases answered : p.status = .ok
      · cases usable : predictionIsUsable p with
        | some why =>
          right
          simp [Heard, ask, listen, ModelExits, Stop.Fair, Stop.Exits, predicted, written,
            answered, usable]
        | none =>
          by_cases probable : x.2.key ∈ probabilityKeys
          · cases explains : x.2.explanation row with
            | error exn =>
              right
              simp [Heard, ask, listen, explained, ModelExits, Stop.Fair, Stop.Exits, predicted,
                written, answered, usable, probable, explains]
            | ok explanation =>
              left
              simp [Heard, ask, listen, hear, explained, ModelExits, predicted, written, answered,
                usable, probable, explains, Except.toOption]
          · left
            simp [Heard, ask, listen, hear, explained, ModelExits, predicted, written, answered,
              usable, probable, Except.toOption]
      · cases optional : x.1.optional with
        | true =>
          left
          simp [Heard, ask, listen, hear, ModelExits, predicted, written, answered, optional,
            Except.toOption]
        | false =>
          right
          have fair := PredictionStatus.name_fair answered
          simp [Heard, ask, listen, ModelExits, Stop.Fair, Stop.Exits, predicted, written,
            answered, optional, fair]

theorem rowsOf_base {maths : Maths} {names : List String} {exn : Exn}
    (failed : rowsOf maths c names = .error exn) : exn.base = .otherError := by
  unfold rowsOf at failed
  split at failed
  · cases failed
    rfl
  · cases failed
    rfl
  · cases failed

theorem featuresAtSignal_base {maths : Maths} {names : List String} {exn : Exn}
    (failed : featuresAtSignal maths c names = .error exn) : exn.base ≠ .exit := by
  rcases Fallible.bind_eq_error.mp failed with raised | ⟨rows, -, refused⟩
  · rw [rowsOf_base raised]
    decide
  · split at refused
    · cases refused
      simp
    · split at refused
      · cases refused
      · cases refused
        simp

theorem features_ends (asked : List (ModelRequirement × Model)) :
    (∃ row, featuresAtSignal s.maths c (wanted asked) = .ok row ∧ features s c asked = .ok row) ∨
      ∃ e, features s c asked = .error e ∧
        (∀ row, featuresAtSignal s.maths c (wanted asked) ≠ .ok row) ∧ e.Fair ∧ ¬ e.Exits := by
  unfold features
  cases computed : featuresAtSignal s.maths c (wanted asked) with
  | ok row => exact Or.inl ⟨row, rfl, rfl⟩
  | error exn =>
    by_cases refused : exn.base = .integrationError
    · right
      simp [refused, Stop.Fair, Stop.Exits]
    · right
      simp [refused, Stop.Fair, Stop.Exits, featuresAtSignal_base computed]

theorem answered_ends (said : Said) :
    Ends (g.thresholds.maximumLatencyMs.lt (.real (elapsedMs s 5)) = false ∧
        (g.mode.canReject = true → said.readings.probability ≠ none))
      said False (answered s g said) := by
  unfold answered
  cases slow : g.thresholds.maximumLatencyMs.lt (.real (elapsedMs s 5)) with
  | true =>
    right
    simp [Stop.Fair, Stop.Exits]
  | false =>
    by_cases empty : said.readings.probability = none ∧ g.mode.canReject = true
    · right
      simp [empty, Stop.Fair, Stop.Exits]
    · left
      rw [if_neg Bool.false_ne_true, if_neg empty]
      exact ⟨⟨rfl, fun can none => empty ⟨none, can⟩⟩, not_false, rfl⟩

theorem heard_ends (row : FeatureRow) :
    Ends ((∀ x ∈ offered s g, Heard c g row x) ∧
        g.thresholds.maximumLatencyMs.lt (.real (elapsedMs s 5)) = false ∧
          (g.mode.canReject = true → (heard s c g row).readings.probability ≠ none))
      (heard s c g row)
      ((∃ before x after, offered s g = before ++ x :: after ∧ (∀ b ∈ before, Heard c g row b) ∧
        ModelExits c g row x) ∨ (∀ x ∈ offered s g, Heard c g row x) ∧ False)
      ((offered s g).foldlM (ask c g row) {} >>= answered s g) :=
  Ends.bind (Ends.foldlM (ask_ends row) (offered s g) {}) (answered_ends _)

theorem gather_ends :
    (∃ row, Reads s c g row ∧ ¬ Exits s c g ∧ gather s c g = .ok (heard s c g row)) ∨
      ∃ e, gather s c g = .error e ∧ (∀ row, ¬ Reads s c g row) ∧ e.Fair ∧
        (e.Exits ↔ Exits s c g) := by
  cases causal : barsAreCausal c with
  | some problem =>
    right
    unfold gather
    rw [causal]
    refine ⟨_, rfl, ?_, ⟨by decide, by decide⟩, False.elim, ?_⟩
    · intro row reads
      cases causal.symm.trans reads.causal
    · intro exits
      cases causal.symm.trans exits.1
  | none =>
    unfold gather
    rw [causal]
    rcases resolved_ends (s := s) (g := g) with ⟨served, stays, is⟩ | ⟨e, is, unserved, fair, iff⟩
    · rw [is, Fallible.ok_bind]
      by_cases empty : offered s g = []
      · right
        rw [if_pos empty]
        refine ⟨_, rfl, fun row reads => reads.some empty, ⟨by decide, by decide⟩, False.elim, ?_⟩
        rintro ⟨-, exits | ⟨-, row, -, before, x, after, split, -⟩⟩
        · exact stays exits
        · rw [empty] at split
          cases List.append_ne_nil_of_right_ne_nil before (List.cons_ne_nil x after) split.symm
      · rw [if_neg empty]
        rcases features_ends (s := s) (c := c) (offered s g) with
          ⟨row, computed, is⟩ | ⟨e, is, none, fair, stays'⟩
        · rw [is, Fallible.ok_bind]
          rcases heard_ends (s := s) (c := c) (g := g) row with
            ⟨⟨all, prompt, probable⟩, stays', is⟩ | ⟨e, is, unheard, fair, iff⟩
          · left
            refine ⟨row, ⟨causal, served, empty, computed, all, prompt, probable⟩, ?_, is⟩
            rintro ⟨-, exits | ⟨-, row', computed', exits⟩⟩
            · exact stays exits
            · cases computed.symm.trans computed'
              exact stays' (Or.inl exits)
          · right
            refine ⟨e, is, ?_, fair, iff.trans ?_⟩
            · intro row' reads
              cases computed.symm.trans reads.computed
              exact unheard ⟨reads.all, reads.prompt, reads.probable⟩
            · constructor
              · rintro (exits | ⟨-, none⟩)
                · exact ⟨causal, Or.inr ⟨served, row, computed, exits⟩⟩
                · exact none.elim
              · rintro ⟨-, exits | ⟨-, row', computed', exits⟩⟩
                · exact absurd exits stays
                · cases computed.symm.trans computed'
                  exact Or.inl exits
        · right
          rw [is, Fallible.error_bind]
          refine ⟨e, rfl, fun row reads => none row reads.computed, fair,
            fun exit => absurd exit stays', ?_⟩
          rintro ⟨-, exits | ⟨-, row, computed, -⟩⟩
          · exact absurd exits stays
          · exact absurd computed (none row)
    · right
      rw [is, Fallible.error_bind]
      refine ⟨e, rfl, fun row reads => unserved reads.served, fair, ?_⟩
      rw [iff]
      constructor
      · exact fun exit => ⟨causal, Or.inl exit⟩
      · rintro ⟨-, exits | ⟨served, -⟩⟩
        · exact exits
        · exact absurd served unserved

end TradeResearch.Ai.Integration
