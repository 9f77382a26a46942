import TradeResearch.Paper.Conserved
import TradeResearch.Paper.Execution
import TradeResearch.Paper.Gaps
import TradeResearch.Sizing.Safe

/-!
# The brackets of the position that is open

`_submit_and_fill` of `backend/app/paper/engine.py` puts the stop and the target of the new order on
whatever position its fill leaves, with the passes around it: the entry that is priced, bracketed,
sized and filled, the exit, and the check of the brackets. What the strategy, the AI seat and risk
answer is an argument of a pass.

* `PaperEngine.decision` is what a pass comes to, up to the fill.
* `Bracketed` is what is asked of the positions; `EntryFits` says for each netting case which
  brackets an order may carry.
* `along_bracketed_iff` is the result for whole runs.
-/

namespace TradeResearch.Paper

open Sizing Symbols

def Side.opening : Side → String
  | long => "buy"
  | short => "sell"

structure EntrySignal where
  side : Side
  referencePrice : Option ℚ := none
  suggestedStopLoss : Option ℚ := none
  suggestedTakeProfit : Option ℚ := none
  atr : Option ℚ := none

structure PaperEngine where
  accountId : String
  spec : ContractSpec
  costs : CostModel
  sizingMethod : SizingMethod := .fixedQuantity
  quantity : Option ℚ := none
  riskAmount : Option ℚ := none
  riskPercent : Option ℚ := none
  stopAtrMultiple : ℚ := 3 / 2
  targetAtrMultiple : ℚ := 3 / 2
  strategyId : Option String := none

inductive PassSignal where
  | quiet
  | exit (reason : String) (reference : Reference)
  | entry (signal : EntrySignal) (reference : Reference) (approved : Bool)

inductive EngineEvent where
  | checkBrackets (bar : PaperBar) (now : Time)
  | process (close : Option ℚ) (now : Time) (signal : PassSignal)

namespace PaperEngine

variable (e : PaperEngine)

def entryPrice (signal : EntrySignal) (reference : Reference) : Option ℚ :=
  let quoted :=
    match signal.side with
    | .long => (reference.ask.filter (· ≠ 0)).or reference.last
    | .short => reference.last
  quoted.or signal.referencePrice

def bracket (signal : EntrySignal) (entry : ℚ) : Option ℚ × Option ℚ :=
  match signal.suggestedStopLoss with
  | some stop => (some stop, signal.suggestedTakeProfit)
  | none =>
    match signal.atr with
    | none => (none, none)
    | some distance =>
      match signal.side with
      | .long =>
        (some (entry - distance * e.stopAtrMultiple), some (entry + distance * e.targetAtrMultiple))
      | .short =>
        (some (entry + distance * e.stopAtrMultiple), some (entry - distance * e.targetAtrMultiple))

def request (equity : ℚ) (side : Side) (entry : ℚ) (stop target : Option ℚ) : SizingRequest :=
  { method := e.sizingMethod
    spec := e.spec
    quantity := e.quantity
    riskAmount := e.riskAmount
    equity := some equity
    riskPercent := e.riskPercent
    stopDistance := stop.map fun stop => |entry - stop|
    side := some side.opening
    entryPrice := some entry
    stopLoss := stop
    takeProfit := target }

def filled (side : String) (quantity : ℚ) (reference : Reference) (now : Time) :
    Except Text SimulatedFill :=
  e.costs.fill .paper side quantity reference (some e.spec.tickSize) (some e.spec.pricePrecision)
    (some now)

def enter (equity : ℚ) (signal : EntrySignal) (reference : Reference) (approved : Bool)
    (now : Time) (entry : ℚ) : Decision :=
  let levels := e.bracket signal entry
  match (calculate (e.request equity signal.side entry levels.1 levels.2)).volume with
  | none => .considered
  | some volume =>
    if approved = true then
      match e.filled signal.side.opening volume reference now with
      | .ok f => .entry f.side f.quantity f.price levels.1 levels.2
      | .error _ => .considered
    else .considered

def decision (b : PaperBot) (now : Time) : PassSignal → Decision
  | .quiet => .quiet
  | .exit reason reference =>
    match b.portfolio.positions.find? b.symbol with
    | none => .quiet
    | some p =>
      match e.filled p.side.closing p.quantity reference now with
      | .ok f => .exit f.price reason
      | .error _ => .quiet
  | .entry signal reference approved =>
    match valuePerPriceUnit e.spec.tickValue e.spec.tickSize, entryPrice signal reference with
    | .ok _, some entry =>
      e.enter (b.portfolio.equity b.prices).1 signal reference approved now entry
    | _, _ => .quiet

def start (p : PaperPortfolio) : PaperBot :=
  { run := 0
    accountId := e.accountId
    symbol := e.spec.internalSymbol
    perUnit := (valuePerPriceUnit e.spec.tickValue e.spec.tickSize).toOption
    commissionPerTrade := e.costs.commissionPerTrade
    strategyId := e.strategyId
    portfolio := p }

def priced (b : PaperBot) (close : ℚ) : PaperBot := { b with lastPrice := some close }

def step (b : PaperBot) : EngineEvent → Option PaperBot
  | .checkBrackets bar now => (b.checkBrackets bar now).toOption.map Prod.fst
  | .process none now _ => (b.process none now .quiet).toOption.map Prod.fst
  | .process (some close) now signal =>
    (b.process (some close) now (e.decision (priced b close) now signal)).toOption.map Prod.fst

end PaperEngine

structure BracketsAt (side : Side) (entry : ℚ) (stop target : Option ℚ) : Prop where
  stop : ∀ level, stop = some level → side.Better entry level
  target : ∀ level, target = some level → side.Better level entry

def PaperPosition.Bracketed (p : PaperPosition) : Prop :=
  BracketsAt p.side p.averageEntry p.stopLoss p.takeProfit

def PaperPortfolio.Bracketed (p : PaperPortfolio) : Prop :=
  ∀ symbol position, p.positions.find? symbol = some position → position.Bracketed

structure EntryFits (held : Option PaperPosition) (f : Fill) (stop target : Option ℚ) : Prop where
  opened : held = none → BracketsAt f.wanted f.price stop target
  added : ∀ p, held = some p → p.side = f.wanted →
    BracketsAt p.side ((p.averageEntry * p.quantity + f.price * f.quantity) /
      (p.quantity + f.quantity)) stop target
  reduced : ∀ p, held = some p → p.side ≠ f.wanted → f.quantity < p.quantity →
    BracketsAt p.side p.averageEntry stop target
  reversed : ∀ p, held = some p → p.side ≠ f.wanted → p.quantity < f.quantity →
    BracketsAt f.wanted f.price stop target

def Decision.Fits (b : PaperBot) (now : Time) : Decision → Prop
  | .entry side quantity price stop target =>
    ∀ f, b.decidedFill now (.entry side quantity price stop target) = some f →
      EntryFits (b.portfolio.positions.find? b.symbol) f stop target
  | _ => True

def PaperEngine.Fits (e : PaperEngine) (b : PaperBot) : EngineEvent → Prop
  | .process (some close) now signal =>
    (e.decision (priced b close) now signal).Fits (priced b close) now
  | _ => True

namespace PaperPortfolio

variable {p q : PaperPortfolio}

theorem left_of_fillOnce {closed : List ClosedTrade}
    (made : fillOnce p (some f) = .ok (closed, q)) :
    q = (applyFill f).left p ∧ 0 < f.quantity := by
  have outcome := applyFill_cases f p
  simp only [fillOnce] at made
  unfold Method.left
  generalize (applyFill f).exec p = out at outcome made
  cases outcome with
  | refused e empty => cases made
  | opened positive flat | added positive existing held along
  | reduced positive existing held against left | closed positive existing held against exact
  | reversed positive existing held against surplus =>
    cases made
    exact ⟨rfl, positive⟩

theorem fillOnce_of_pos (p : PaperPortfolio) (positive : 0 < f.quantity) :
    ∃ closed, fillOnce p (some f) = .ok (closed, (applyFill f).left p) := by
  have outcome := applyFill_cases f p
  simp only [fillOnce]
  unfold Method.left
  generalize (applyFill f).exec p = out at outcome
  cases outcome with
  | refused e empty => exact absurd positive (not_lt.mpr empty)
  | opened positive flat | added positive existing held along
  | reduced positive existing held against left | closed positive existing held against exact =>
      exact ⟨_, rfl⟩
  | reversed positive existing held against surplus => exact ⟨_, rfl⟩

theorem find?_of_closed {position : PaperPosition}
    (held : p.positions.find? f.symbol = some position) (against : position.side ≠ f.wanted)
    (whole : f.quantity = position.quantity) :
    ((applyFill f).left p).positions.find? f.symbol = none := by
  have positive : 0 < f.quantity := whole ▸ position.positive
  have left := coreAt_applyFill_self p positive
  unfold coreAt at left
  rw [held, Option.map_some] at left
  have gone : nextCore f (some position.core) = none := by
    show (if position.side = f.wanted then _ else _) = none
    rw [if_neg against, if_neg (whole ▸ lt_irrefl _), if_neg (whole ▸ lt_irrefl _)]
  rw [gone] at left
  exact Option.map_eq_none_iff.mp left

theorem bracketed_iff (p : PaperPortfolio) (symbol : String) :
    p.Bracketed ↔
      (∀ other, other ≠ symbol → ∀ position, p.positions.find? other = some position →
        position.Bracketed) ∧
      ∀ position, p.positions.find? symbol = some position → position.Bracketed := by
  constructor
  · intro every
    exact ⟨fun other _ => every other, every symbol⟩
  · rintro ⟨others, own⟩ other position held
    by_cases here : other = symbol
    · subst here
      exact own position held
    · exact others other here position held

theorem bracketed_of_left (good : p.Bracketed)
    (own : ∀ position, ((applyFill f).left p).positions.find? f.symbol = some position →
      position.Bracketed) : ((applyFill f).left p).Bracketed := by
  refine (bracketed_iff _ f.symbol).mpr ⟨fun other ne position held => ?_, own⟩
  rw [find?_applyFill_of_ne p f ne] at held
  exact good other position held

theorem find?_bracketed (p : PaperPortfolio) (symbol other : String) (stop target : Option ℚ) :
    (p.bracketed symbol stop target).positions.find? other =
      if other = symbol then
        (p.positions.find? symbol).map fun position => position.bracketed stop target
      else p.positions.find? other := by
  unfold bracketed
  cases held : p.positions.find? symbol with
  | none =>
    by_cases here : other = symbol
    · rw [if_pos here]
      exact here ▸ held
    · exact (if_neg here).symm
  | some position =>
    have named : position.symbol = symbol := Table.key_of_find? held
    rw [← named]
    exact find?_put ..

theorem nextCore_iff_fits (held : Option PaperPosition) (f : Fill) (stop target : Option ℚ) :
    (∀ core, nextCore f (held.map PaperPosition.core) = some core →
      BracketsAt core.1 core.2.2 stop target) ↔ EntryFits held f stop target := by
  cases held with
  | none =>
    constructor
    · intro every
      exact
        { opened := fun _ => every _ rfl
          added := fun p held => absurd held (Option.some_ne_none p).symm
          reduced := fun p held => absurd held (Option.some_ne_none p).symm
          reversed := fun p held => absurd held (Option.some_ne_none p).symm }
    · intro fits core left
      cases left
      exact fits.opened rfl
  | some p =>
    have left : nextCore f (some p.core) =
        if p.side = f.wanted then
          some (p.side, p.quantity + f.quantity,
            (p.averageEntry * p.quantity + f.price * f.quantity) / (p.quantity + f.quantity))
        else if f.quantity < p.quantity then some (p.side, p.quantity - f.quantity, p.averageEntry)
        else if p.quantity < f.quantity then some (f.wanted, f.quantity - p.quantity, f.price)
        else none := rfl
    rw [Option.map_some, left]
    constructor
    · intro every
      refine
        { opened := fun held => absurd held (Option.some_ne_none p)
          added := fun _ held along => ?_
          reduced := fun _ held against part => ?_
          reversed := fun _ held against beyond => ?_ }
      · cases held
        exact every _ (if_pos along)
      · cases held
        exact every _ ((if_neg against).trans (if_pos part))
      · cases held
        exact every _ ((if_neg against).trans ((if_neg beyond.not_gt).trans (if_pos beyond)))
    · intro fits core is
      split at is
      · next along =>
        cases is
        exact fits.added p rfl along
      · next against =>
        split at is
        · next part =>
          cases is
          exact fits.reduced p rfl against part
        · split at is
          · next beyond =>
            cases is
            exact fits.reversed p rfl against beyond
          · cases is

theorem bracketed_iff_fits (good : p.Bracketed) (positive : 0 < f.quantity)
    (stop target : Option ℚ) :
    (((applyFill f).left p).bracketed f.symbol stop target).Bracketed ↔
      EntryFits (p.positions.find? f.symbol) f stop target := by
  rw [← nextCore_iff_fits, ← coreAt, ← coreAt_applyFill_self p positive,
    bracketed_iff _ f.symbol]
  constructor
  · rintro ⟨-, own⟩ core is
    obtain ⟨position, left, rfl⟩ := Option.map_eq_some_iff.mp is
    refine own (position.bracketed stop target) ?_
    rw [find?_bracketed, if_pos rfl, left, Option.map_some]
  · intro every
    constructor
    · intro other ne position held
      rw [find?_bracketed, if_neg ne, find?_applyFill_of_ne p f ne] at held
      exact good other position held
    · intro position held
      rw [find?_bracketed, if_pos rfl] at held
      obtain ⟨bare, left, rfl⟩ := Option.map_eq_some_iff.mp held
      exact every bare.core (Option.map_eq_some_iff.mpr ⟨bare, left, rfl⟩)

end PaperPortfolio

namespace PaperBot

variable {b : PaperBot}

theorem closingFill_against (b : PaperBot) (p : PaperPosition) (price : ℚ) (reason : String)
    (now : Time) : p.side ≠ (b.closingFill p price reason now).wanted := by
  show p.side ≠ if p.side.closing = "buy" then .long else .short
  cases p.side with
  | long | short => exact fun same => absurd same (by decide)

theorem bracketed_of_closing {p : PaperPosition} {q : PaperPortfolio} {closed : List ClosedTrade}
    (good : b.portfolio.Bracketed) (held : b.portfolio.positions.find? b.symbol = some p)
    {price : ℚ} {reason : String} {now : Time}
    (made : fillOnce b.portfolio (some (b.closingFill p price reason now)) = .ok (closed, q)) :
    q.Bracketed := by
  obtain ⟨rfl, -⟩ := PaperPortfolio.left_of_fillOnce made
  refine PaperPortfolio.bracketed_of_left good fun position left => ?_
  have gone := PaperPortfolio.find?_of_closed (f := b.closingFill p price reason now) held
    (b.closingFill_against p price reason now) rfl
  exact absurd (gone.symm.trans left) (Option.some_ne_none position).symm

theorem bracketed_checkBrackets {bar : PaperBar} {now : Time} (good : b.portfolio.Bracketed)
    (checked : b.checkBrackets bar now = .ok (b', outcomes)) : b'.portfolio.Bracketed := by
  unfold checkBrackets bracketFill at checked
  cases held : b.portfolio.positions.find? b.symbol with
  | none =>
    rw [held] at checked
    cases checked
    exact good
  | some p =>
    rw [held, Option.bind_some] at checked
    cases hit : p.hit bar with
    | none =>
      rw [hit] at checked
      cases checked
      exact good
    | some level =>
      rw [hit] at checked
      obtain ⟨⟨closed, q⟩, made, is⟩ := Fallible.map_eq_ok.mp checked
      cases is
      exact bracketed_of_closing good held made

theorem positions_sized (d : Decision) : (b.sized d).positions = b.portfolio.positions := by
  cases d with
  | quiet | exit price reason => rfl
  | considered | entry side quantity price stop target =>
    dsimp only [sized]
    split
    · rfl
    · rfl

theorem bracketed_sized (d : Decision) : (b.sized d).Bracketed ↔ b.portfolio.Bracketed := by
  unfold PaperPortfolio.Bracketed
  rw [positions_sized]

theorem bracketed_process_iff {price : ℚ} {now : Time} {d : Decision}
    (good : b.portfolio.Bracketed) (processed : b.process (some price) now d = .ok (b', outcomes)) :
    b'.portfolio.Bracketed ↔ d.Fits { b with lastPrice := some price } now := by
  simp only [process] at processed
  generalize named : { b with lastPrice := some price } = c at processed ⊢
  have good : c.portfolio.Bracketed := named ▸ good
  obtain ⟨⟨closed, q⟩, made, is⟩ := Fallible.map_eq_ok.mp processed
  cases is
  cases d with
  | quiet =>
    cases made
    exact iff_of_true good trivial
  | considered =>
    cases made
    exact iff_of_true ((bracketed_sized .considered).mpr good) trivial
  | exit level reason =>
    refine iff_of_true ?_ trivial
    cases held : c.portfolio.positions.find? c.symbol with
    | none =>
      simp only [decidedFill, held, Option.map_none] at made
      cases made
      exact good
    | some p =>
      simp only [decidedFill, held, Option.map_some] at made
      exact bracketed_of_closing good held made
  | entry side quantity level stop target =>
    cases known : c.perUnit with
    | none =>
      simp only [decidedFill, known, Option.map_none] at made
      cases made
      refine iff_of_true ?_ fun f filled => ?_
      · simp only [afterFill, known, Option.isSome_none, Bool.false_eq_true, if_false]
        exact (bracketed_sized _).mpr good
      · simp only [decidedFill, known, Option.map_none] at filled
        cases filled
    | some value =>
      cases filled : c.decidedFill now (.entry side quantity level stop target) with
      | none =>
        simp only [decidedFill, known, Option.map_some] at filled
        cases filled
      | some f =>
        have here : f.symbol = c.symbol := symbol_decidedFill f filled
        rw [filled] at made
        obtain ⟨rfl, positive⟩ := PaperPortfolio.left_of_fillOnce made
        have fits := PaperPortfolio.bracketed_iff_fits
          ((bracketed_sized (.entry side quantity level stop target)).mpr good) positive stop target
        rw [here, positions_sized] at fits
        simp only [afterFill, known, Option.isSome_some, if_true]
        refine fits.trans ⟨fun fit g is => ?_, fun every => every f filled⟩
        cases filled.symm.trans is
        exact fit

end PaperBot

namespace PaperEngine

variable {e : PaperEngine}

theorem filled_of_decision {now : Time} {signal : PassSignal} {side : String} {quantity price : ℚ}
    {stop target : Option ℚ}
    (decided : e.decision b now signal = .entry side quantity price stop target) :
    ∃ order reference approved entry volume f, signal = .entry order reference approved ∧
      entryPrice order reference = some entry ∧ e.bracket order entry = (stop, target) ∧
      (calculate (e.request (b.portfolio.equity b.prices).1 order.side entry stop target)).volume =
        some volume ∧
      e.filled order.side.opening volume reference now = .ok f ∧
      side = f.side ∧ quantity = f.quantity ∧ price = f.price := by
  cases signal with
  | quiet => cases decided
  | exit reason reference =>
    unfold decision at decided
    dsimp only at decided
    split at decided
    · cases decided
    · split at decided
      · cases decided
      · cases decided
  | entry order reference approved =>
    unfold decision at decided
    dsimp only at decided
    split at decided
    · rename_i entry _ priced
      unfold enter at decided
      dsimp only at decided
      split at decided
      · cases decided
      · rename_i volume sized
        split at decided
        · split at decided
          · rename_i f filled
            cases decided
            exact ⟨order, reference, approved, entry, volume, f, rfl, priced, rfl, sized, filled,
              rfl, rfl, rfl⟩
          · cases decided
        · cases decided
    · cases decided

theorem quantity_pos_of_decision {now : Time} {signal : PassSignal} {side : String}
    {quantity price : ℚ} {stop target : Option ℚ}
    (decided : e.decision b now signal = .entry side quantity price stop target) :
    0 < quantity := by
  obtain ⟨order, reference, approved, entry, volume, f, -, -, -, -, filled, -, rfl, -⟩ :=
    filled_of_decision decided
  exact (CostModel.fill_eq_ok filled).2.1

theorem bracketed_step_iff {event : EngineEvent} (good : b.portfolio.Bracketed)
    (taken : e.step b event = some t) : t.portfolio.Bracketed ↔ e.Fits b event := by
  cases event with
  | checkBrackets bar now =>
    refine iff_of_true ?_ trivial
    simp only [step] at taken
    cases checked : b.checkBrackets bar now with
    | error _ =>
      rw [checked] at taken
      cases taken
    | ok made =>
      rw [checked] at taken
      cases taken
      exact PaperBot.bracketed_checkBrackets good checked
  | process close now signal =>
    cases close with
    | none =>
      cases taken
      exact iff_of_true good trivial
    | some close =>
      simp only [step] at taken
      cases processed :
          b.process (some close) now (e.decision (priced b close) now signal) with
      | error _ =>
        rw [processed] at taken
        cases taken
      | ok made =>
        rw [processed] at taken
        cases taken
        exact PaperBot.bracketed_process_iff good processed

theorem fits_of_blocked {event : EngineEvent} (blocked : e.step b event = none) :
    e.Fits b event := by
  cases event with
  | checkBrackets bar now => trivial
  | process close now signal =>
    cases close with
    | none => trivial
    | some close =>
      show (e.decision (priced b close) now signal).Fits (priced b close) now
      cases decided : e.decision (priced b close) now signal with
      | quiet | considered | exit price reason => trivial
      | entry side quantity price stop target =>
        intro f filled
        have positive : 0 < f.quantity := by
          have same : f.quantity = quantity := by
            obtain ⟨value, -, rfl⟩ := Option.map_eq_some_iff.mp filled
            rfl
          rw [same]
          exact quantity_pos_of_decision decided
        obtain ⟨closed, made⟩ := PaperPortfolio.fillOnce_of_pos
          ((priced b close).sized (.entry side quantity price stop target)) positive
        simp only [step] at blocked
        rw [decided] at blocked
        change ((fillOnce ((priced b close).sized (.entry side quantity price stop target))
          ((priced b close).decidedFill now (.entry side quantity price stop target))).map
            _).toOption.map _ = none at blocked
        rw [filled, made] at blocked
        cases blocked

/-- In every run of an engine, over whatever portfolio it starts with: the stops and the targets are
on the correct sides all along exactly when they are at the start and every entry that is filled
carries brackets that fit what its fill does. -/
theorem along_bracketed_iff (e : PaperEngine) (p : PaperPortfolio) (events : List EngineEvent) :
    Run.Along e.step (fun b => b.portfolio.Bracketed) (e.start p) events ↔
      p.Bracketed ∧ Run.Meets e.step e.Fits (e.start p) events := by
  have exact : p.Bracketed →
      (Run.Along e.step (fun b => b.portfolio.Bracketed) (e.start p) events ↔
        Run.Meets e.step e.Fits (e.start p) events) :=
    fun good => Run.along_iff_meets (fun _ _ _ => bracketed_step_iff)
      (fun _ _ => fits_of_blocked) good
  constructor
  · intro along
    have good : p.Bracketed := along.first
    exact ⟨good, (exact good).mp along⟩
  · rintro ⟨good, meets⟩
    exact (exact good).mpr meets

def lotEngine : PaperEngine where
  accountId := "account"
  spec := contract 1 10 1 0
  costs := { spreadPoints := 0 }
  quantity := some 1

def passAt100 (side : Side) : EngineEvent :=
  .process (some 100) 0 (.entry { side, atr := some 1 } (.fromBar 0 100) true)

/-- Two buys and a sell leave one lot bought at 100, with its stop above it at 101.5. -/
theorem not_forall_bracketed :
    ¬ ∀ (e : PaperEngine) (startingBalance : ℚ) (events : List EngineEvent),
      Run.Along e.step (fun b => b.portfolio.Bracketed)
        (e.start (PaperPortfolio.fresh startingBalance)) events := by
  intro every
  have along := every lotEngine 1000 [passAt100 .long, passAt100 .long, passAt100 .short]
  have left : ((Run.exec lotEngine.step (lotEngine.start (PaperPortfolio.fresh 1000))
      [passAt100 .long, passAt100 .long, passAt100 .short]).bind fun b =>
        (b.portfolio.positions.find? "EURUSD").map fun p =>
          (p.side, p.averageEntry, p.stopLoss)) = some (.long, 100, some (203 / 2)) := by
    decide +kernel
  obtain ⟨b, ended, held⟩ := Option.bind_eq_some_iff.mp left
  obtain ⟨p, held, is⟩ := Option.map_eq_some_iff.mp held
  have right := along.last ended "EURUSD" p held
  unfold PaperPosition.Bracketed at right
  rw [(Prod.mk.inj is).1, (Prod.mk.inj (Prod.mk.inj is).2).1] at right
  have below : (203 / 2 : ℚ) < 100 := right.stop _ (Prod.mk.inj (Prod.mk.inj is).2).2
  exact absurd below (by norm_num)

end PaperEngine

end TradeResearch.Paper
