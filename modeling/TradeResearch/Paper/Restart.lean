import TradeResearch.Paper.Conserved
import TradeResearch.Paper.Trades

/-!
# What a restart of a bot shows

A bot that is stopped and started again reads its portfolio back from the account row and the open
position rows. The closed trades and the commissions of the run before, and the peak of its equity,
are stored in no row it reads.

* `ownSymbol_step`: a bot holds positions in its own symbol only.
* `Lossless` says what a running portfolio must be for nothing of it to be lost.
* `sameView_iff` is the result: a restart shows the same account exactly then.
-/

namespace TradeResearch.Paper

open PaperPortfolio

namespace PaperPortfolio

def tradesSince (p : PaperPortfolio) (start : Time) : ℕ :=
  p.trades.countP fun t => start ≤ t.closedAt

theorem tradesSince_eq_zero_iff (p : PaperPortfolio) :
    (∀ start, p.tradesSince start = 0) ↔ p.trades = [] := by
  constructor
  · intro none
    refine List.eq_nil_iff_forall_not_mem.mpr fun t mem => ?_
    have absent := List.countP_eq_zero.mp (none t.closedAt) t mem
    simp at absent
  · intro none start
    unfold tradesSince
    rw [none, List.countP_nil]

end PaperPortfolio

structure PositionView where
  symbol : String
  side : Side
  quantity : ℚ
  averageEntry : ℚ
  valuePerUnit : ℚ
  stopLoss : Option ℚ
  takeProfit : Option ℚ

def PaperPosition.view (p : PaperPosition) : PositionView :=
  { symbol := p.symbol
    side := p.side
    quantity := p.quantity
    averageEntry := p.averageEntry
    valuePerUnit := p.valuePerUnit
    stopLoss := p.stopLoss
    takeProfit := p.takeProfit }

structure SameView (p q : PaperPortfolio) : Prop where
  positions : ∀ symbol, (p.positions.find? symbol).map PaperPosition.view =
    (q.positions.find? symbol).map PaperPosition.view
  balance : p.balance = q.balance
  peak : p.peakEquity = q.peakEquity
  commission : p.commissionPaid = q.commissionPaid
  realised : ∀ start, p.realisedSince start = q.realisedSince start
  trades : ∀ start, p.tradesSince start = q.tradesSince start

structure Lossless (a : PaperAccountRow) (symbol : String) (perUnit : Option ℚ)
    (p : PaperPortfolio) : Prop where
  value : ∀ position ∈ p.positions.find? symbol, perUnit = some position.valuePerUnit
  balance : p.balance = 0 → a.startingBalance = 0
  peak : p.peakEquity = max a.equity a.startingBalance
  commission : p.commissionPaid = 0
  trades : p.trades = []

namespace PaperAccounts

variable {s : PaperAccounts}

def OwnSymbol (s : PaperAccounts) : Prop :=
  ∀ b ∈ s.bots.rows, ∀ other, other ≠ b.symbol → b.portfolio.positions.find? other = none

theorem ownSymbol_put {b : PaperBot} (own : s.OwnSymbol)
    (only : ∀ other, other ≠ b.symbol → b.portfolio.positions.find? other = none) :
    (s.put b).OwnSymbol := by
  intro x mem
  rcases Table.mem_put.mp mem with ⟨old, _⟩ | rfl
  · exact own x old
  · exact only

theorem find?_restorePositions {p q : PaperPortfolio} {rows : List PositionRow} {symbol : String}
    {perUnit : Option ℚ} (restored : restorePositions p rows symbol perUnit = some q)
    {other : String} (ne : other ≠ symbol) : q.positions.find? other = p.positions.find? other := by
  have folded : ∀ (value : ℚ) (rows : List PositionRow) (p : PaperPortfolio),
      (rows.foldl (fun p r => p.put (r.restored symbol value)) p).positions.find? other =
        p.positions.find? other := by
    intro value rows
    induction rows with
    | nil => exact fun _ => rfl
    | cons r rows ih =>
      intro p
      rw [List.foldl_cons, ih, find?_put]
      exact if_neg ne
  unfold restorePositions at restored
  split at restored
  · cases restored
    rfl
  · obtain ⟨value, -, rfl⟩ := Option.map_eq_some_iff.mp restored
    exact folded value _ p

theorem ownSymbol_step {e : AccountEvent} (own : s.OwnSymbol) (taken : s.step e = some t) :
    t.OwnSymbol := by
  cases e with
  | create id startingBalance =>
    simp only [step] at taken
    split at taken
    · cases taken
      exact own
    · cases taken
  | load run start =>
    simp only [step] at taken
    split at taken
    · obtain ⟨a, -, rfl⟩ := Option.map_eq_some_iff.mp taken
      exact ownSymbol_put own fun _ _ => rfl
    · cases taken
  | restore run =>
    obtain ⟨b, found, taken⟩ := Option.bind_eq_some_iff.mp taken
    obtain ⟨a, -, taken⟩ := Option.bind_eq_some_iff.mp taken
    split at taken
    · obtain ⟨portfolio, restored, rfl⟩ := Option.map_eq_some_iff.mp taken
      refine ownSymbol_put own fun other ne => ?_
      exact (find?_restorePositions restored ne).trans
        (own b (List.mem_of_find?_eq_some found) other ne)
    · cases taken
  | evaluate run bar enough now d =>
    obtain ⟨b, found, taken⟩ := Option.bind_eq_some_iff.mp taken
    have before := own b (List.mem_of_find?_eq_some found)
    split at taken
    · split at taken
      · next made evaluated =>
        cases taken
        obtain ⟨same, passed⟩ := PaperBot.passed_evaluate evaluated
        refine ownSymbol_put own fun other ne => ?_
        have ne : other ≠ b.symbol := same.2.2.1 ▸ ne
        exact (passed.elsewhere other ne).trans (before other ne)
      · cases taken
        exact ownSymbol_put own before
    · cases taken
  | persist run known =>
    obtain ⟨b, found, taken⟩ := Option.bind_eq_some_iff.mp taken
    obtain ⟨a, -, taken⟩ := Option.bind_eq_some_iff.mp taken
    split at taken
    · cases taken
      exact ownSymbol_put own (own b (List.mem_of_find?_eq_some found))
    · cases taken
  | stop run =>
    obtain ⟨b, found, rfl⟩ := Option.map_eq_some_iff.mp taken
    exact ownSymbol_put own (own b (List.mem_of_find?_eq_some found))
  | reset id startingBalance =>
    obtain ⟨a, -, rfl⟩ := Option.map_eq_some_iff.mp taken
    exact own

structure Restarts (s : PaperAccounts) (start : BotStart) (b b' : PaperBot) : Prop where
  found : s.bots.find? b.run = some b
  idle : b.phase = .idle
  account : start.accountId = b.accountId
  symbol : start.symbol = b.symbol
  again : ∃ t, Run.exec step s [.stop b.run, .load b'.run start, .restore b'.run] = some t ∧
    t.bots.find? b'.run = some b'

theorem restored_of_restarts {start : BotStart} {b b' : PaperBot} {a : PaperAccountRow}
    (restarts : s.Restarts start b b') (holds : s.accounts.find? b.accountId = some a) :
    restorePositions a.load a.positions b.symbol start.perUnit = some b'.portfolio := by
  obtain ⟨found, -, account, symbol, t, run, new⟩ := restarts
  obtain ⟨s₁, stopped, run⟩ := Run.exec_cons_eq_some.mp run
  obtain ⟨s₂, loaded, run⟩ := Run.exec_cons_eq_some.mp run
  obtain ⟨t', restored, run⟩ := Run.exec_cons_eq_some.mp run
  cases run
  obtain ⟨b₀, found', rfl⟩ := Option.map_eq_some_iff.mp stopped
  cases found.symm.trans found'
  simp only [step] at loaded
  split at loaded
  · obtain ⟨a', holds', rfl⟩ := Option.map_eq_some_iff.mp loaded
    change s.accounts.find? start.accountId = some a' at holds'
    rw [account, holds] at holds'
    cases holds'
    obtain ⟨c, found'', restored⟩ := Option.bind_eq_some_iff.mp restored
    obtain ⟨a', holds'', restored⟩ := Option.bind_eq_some_iff.mp restored
    have fresh : c = started b'.run start a := by
      have written := Table.find?_put (s.put { b with phase := .gone }).bots
        (started b'.run start a) b'.run
      exact Option.some.inj (found''.symm.trans (written.trans (if_pos rfl)))
    subst fresh
    have own : a.id = b.accountId := Table.key_of_find? holds
    change s.accounts.find? a.id = some a' at holds''
    rw [own, holds] at holds''
    cases holds''
    obtain ⟨portfolio, read, rfl⟩ := Option.map_eq_some_iff.mp restored
    have written := Table.find?_put
      ((s.put { b with phase := .gone }).put (started b'.run start a)).bots
      { started b'.run start a with portfolio, phase := .idle } b'.run
    have same := Option.some.inj (new.symm.trans (written.trans (if_pos rfl)))
    have rebuilt : b'.portfolio = portfolio := congrArg PaperBot.portfolio same
    rw [← symbol, rebuilt]
    exact read
  · cases loaded

theorem open_of_matches {rows : List PositionRow} {p : PaperPortfolio} {symbol : String}
    (same : Matches rows p) (own : ∀ other, other ≠ symbol → p.positions.find? other = none) :
    rows.filter PositionRow.isOpen = ((p.positions.find? symbol).map PositionRow.of).toList := by
  rw [← same symbol]
  refine List.filter_congr fun r mem => ?_
  cases isOpen : r.isOpen with
  | false => rfl
  | true =>
    refine (decide_eq_true ?_).symm
    by_contra ne
    have mem' : r ∈ openRows rows r.symbol := List.mem_filter.mpr ⟨mem, by simp [isOpen]⟩
    rw [same, own r.symbol ne] at mem'
    cases mem'

theorem view_restored_iff {rows : List PositionRow} {p q r : PaperPortfolio} {symbol : String}
    {perUnit : Option ℚ} (same : Matches rows p)
    (own : ∀ other, other ≠ symbol → p.positions.find? other = none)
    (empty : q.positions = Table.empty _)
    (restored : restorePositions q rows symbol perUnit = some r) :
    (∀ other, (p.positions.find? other).map PaperPosition.view =
      (r.positions.find? other).map PaperPosition.view) ↔
      ∀ position ∈ p.positions.find? symbol, perUnit = some position.valuePerUnit := by
  have flat : ∀ other, q.positions.find? other = none := fun other => by rw [empty]; rfl
  unfold restorePositions at restored
  rw [open_of_matches same own] at restored
  cases held : p.positions.find? symbol with
  | none =>
    rw [held] at restored
    cases restored
    refine iff_of_true (fun other => ?_) fun position mem => by cases mem
    rw [flat]
    by_cases here : other = symbol
    · rw [here, held]
    · rw [own other here]
  | some position =>
    rw [held] at restored
    obtain ⟨value, is, rfl⟩ := Option.map_eq_some_iff.mp restored
    have named : position.symbol = symbol := Table.key_of_find? held
    have written : ∀ other,
        (q.put ((PositionRow.of position).restored symbol value)).positions.find? other =
          if other = symbol then some ((PositionRow.of position).restored symbol value)
          else q.positions.find? other := fun other => find?_put ..
    constructor
    · intro shown position' mem
      cases mem
      have here := shown symbol
      change _ = ((q.put _).positions.find? symbol).map PaperPosition.view at here
      rw [written, if_pos rfl, held] at here
      rw [is]
      exact congrArg some (congrArg PositionView.valuePerUnit (Option.some.inj here)).symm
    · intro kept other
      show _ = ((q.put _).positions.find? other).map PaperPosition.view
      rw [written]
      by_cases here : other = symbol
      · rw [if_pos here, here, held]
        have value_eq : value = position.valuePerUnit :=
          Option.some.inj (is.symm.trans (kept position rfl))
        subst value_eq
        subst named
        rfl
      · rw [if_neg here, own other here, flat]

theorem figures_restored {p q : PaperPortfolio} {rows : List PositionRow} {symbol : String}
    {perUnit : Option ℚ} (restored : restorePositions p rows symbol perUnit = some q) :
    q.balance = p.balance ∧ q.peakEquity = p.peakEquity ∧ q.commissionPaid = p.commissionPaid ∧
      q.trades = p.trades := by
  have folded : ∀ (value : ℚ) (rows : List PositionRow) (p q : PaperPortfolio),
      rows.foldl (fun p r => p.put (r.restored symbol value)) p = q →
      q.balance = p.balance ∧ q.peakEquity = p.peakEquity ∧
        q.commissionPaid = p.commissionPaid ∧ q.trades = p.trades := by
    intro value rows
    induction rows with
    | nil =>
      rintro p q rfl
      exact ⟨rfl, rfl, rfl, rfl⟩
    | cons r rows ih => exact fun p q made => ih (p.put (r.restored symbol value)) q made
  unfold restorePositions at restored
  split at restored
  · cases restored
    exact ⟨rfl, rfl, rfl, rfl⟩
  · obtain ⟨value, -, made⟩ := Option.map_eq_some_iff.mp restored
    exact folded value _ p q made

/-- On a run on which one bot at a time holds an account, a bot that is stopped between two passes
and started again shows the same account exactly when the rows it reads back keep everything: the
value of a price unit is what it was, the balance is not zero, the peak is in the stored equity, and
since the bot started no commission was paid and nothing was closed. -/
theorem sameView_iff (events : List AccountEvent) (meets : Run.Meets step Conduct {} events)
    (run : Run.exec step {} events = some s) {start : BotStart} {b b' : PaperBot}
    (restarts : s.Restarts start b b') {a : PaperAccountRow}
    (holds : s.accounts.find? b.accountId = some a) :
    SameView b.portfolio b'.portfolio ↔ Lossless a b.symbol start.perUnit b.portfolio := by
  have orderly : s.Orderly :=
    Run.invariant (fun s e t orderly conduct taken => orderly_step orderly conduct taken)
      orderly_initial meets run
  have own : s.OwnSymbol :=
    Run.invariant_all (fun s e t own taken => ownSymbol_step own taken)
      (fun b mem => by cases mem) run
  have live : b.phase.live = true := by rw [restarts.idle]; rfl
  have follows := follows_of_found orderly restarts.found holds live
  unfold Follows at follows
  rw [restarts.idle] at follows
  obtain ⟨balance, same⟩ := follows
  have restored := restored_of_restarts restarts holds
  have positions := view_restored_iff same
    (own b (List.mem_of_find?_eq_some restarts.found)) rfl restored
  obtain ⟨balance', peak, commission, trades⟩ := figures_restored restored
  have loaded : b'.portfolio.balance = if a.balance = 0 then a.startingBalance else a.balance :=
    balance'
  have none : b'.portfolio.trades = [] := trades
  constructor
  · intro view
    refine ⟨positions.mp view.positions, fun zero => ?_, view.peak.trans peak,
      view.commission.trans commission, ?_⟩
    · have shown := view.balance
      rw [loaded, if_pos (balance.symm.trans zero), zero] at shown
      exact shown.symm
    · refine (tradesSince_eq_zero_iff _).mp fun start => ?_
      rw [view.trades, (tradesSince_eq_zero_iff _).mpr none]
  · intro lossless
    refine ⟨positions.mpr lossless.value, ?_, lossless.peak.trans peak.symm,
      lossless.commission.trans commission.symm, fun start => ?_, fun start => ?_⟩
    · rw [loaded]
      split
      · next zero =>
        rw [balance, zero]
        exact (lossless.balance (balance.trans zero)).symm
      · exact balance
    · unfold realisedSince
      rw [lossless.trades, none]
    · unfold tradesSince
      rw [lossless.trades, none]

private def freeStart : BotStart :=
  { accountId := "A", symbol := "EURUSD", perUnit := some 1, commissionPerTrade := 0
    strategyId := none }

private def flatBar : PaperBar := { low := 10, high := 10, close := 10 }

private def bought : List AccountEvent :=
  [.create "A" 1000, .load 1 freeStart, .restore 1,
    .evaluate 1 flatBar true 0 (.entry "buy" 1 10 (some 9) none), .persist 1 true]

private def lostOne : List AccountEvent :=
  bought ++ [.evaluate 1 flatBar true 1 (.exit 8 "exit"), .persist 1 true]

private def waits (b : PaperBot) : Bool :=
  match b.phase with
  | .idle => true
  | _ => false

private def seen (events : List AccountEvent)
    (test : PaperAccountRow → PaperBot → PaperBot → Bool) : Bool :=
  (Run.exec step {} events).any fun s => (s.accounts.find? "A").any fun a =>
    (s.bots.find? 1).any fun b =>
      decide (b.accountId = "A" ∧ b.symbol = "EURUSD") && waits b &&
        (Run.exec step s [.stop 1, .load 2 freeStart, .restore 2]).any fun t =>
          (t.bots.find? 2).any fun b' => test a b b'

private theorem exists_of_seen {events : List AccountEvent}
    {test : PaperAccountRow → PaperBot → PaperBot → Bool} (shown : seen events test = true) :
    ∃ s a b b', Run.exec step {} events = some s ∧ Restarts s freeStart b b' ∧
      s.accounts.find? b.accountId = some a ∧ b.symbol = "EURUSD" ∧ test a b b' = true := by
  obtain ⟨s, run, shown⟩ := (Option.any_eq_true ..).mp shown
  obtain ⟨a, holds, shown⟩ := (Option.any_eq_true ..).mp shown
  obtain ⟨b, found, shown⟩ := (Option.any_eq_true ..).mp shown
  rw [Bool.and_eq_true, Bool.and_eq_true, decide_eq_true_iff] at shown
  obtain ⟨⟨⟨account, symbol⟩, idle⟩, shown⟩ := shown
  obtain ⟨t, again, shown⟩ := (Option.any_eq_true ..).mp shown
  obtain ⟨b', new, shown⟩ := (Option.any_eq_true ..).mp shown
  have run₁ : b.run = 1 := Table.key_of_find? found
  have run₂ : b'.run = 2 := Table.key_of_find? new
  have phase : b.phase = .idle := by
    unfold waits at idle
    split at idle
    · next phase => exact phase
    · cases idle
  refine ⟨s, a, b, b', run, ⟨run₁ ▸ found, phase, account.symm, symbol.symm, t, ?_, ?_⟩, ?_, symbol,
    shown⟩
  · rw [run₁, run₂]
    exact again
  · rw [run₂]
    exact new
  · rw [account]
    exact holds

/-- An open position survives a restart, and the account with it. -/
theorem sameView_of_bought : ∃ b b' : PaperBot, b.portfolio.positions.rows ≠ [] ∧
    SameView b.portfolio b'.portfolio := by
  have shown : seen bought (fun a b _ =>
      decide (b.portfolio.positions.rows ≠ [] ∧
        (∀ position ∈ b.portfolio.positions.find? "EURUSD",
          freeStart.perUnit = some position.valuePerUnit) ∧
        (b.portfolio.balance = 0 → a.startingBalance = 0) ∧
        b.portfolio.peakEquity = max a.equity a.startingBalance ∧
        b.portfolio.commissionPaid = 0 ∧ b.portfolio.trades.length = 0)) = true := by
    decide +kernel
  obtain ⟨s, a, b, b', run, restarts, holds, symbol, shown⟩ := exists_of_seen shown
  obtain ⟨held, value, balance, peak, commission, trades⟩ := of_decide_eq_true shown
  refine ⟨b, b', held, ?_⟩
  refine (sameView_iff bought (by decide +kernel) run restarts holds).mpr ⟨?_, balance, peak,
    commission, List.length_eq_zero_iff.mp trades⟩
  rw [symbol]
  exact value

/-- A loss does not: the day's figure starts again from nothing. -/
theorem not_forall_sameView : ¬ ∀ (events : List AccountEvent) (s : PaperAccounts)
    (start : BotStart) (b b' : PaperBot), Run.exec step {} events = some s →
      Restarts s start b b' → SameView b.portfolio b'.portfolio := by
  intro always
  have shown : seen lostOne (fun _ b b' =>
      decide (b.portfolio.realisedSince 0 ≠ b'.portfolio.realisedSince 0)) = true := by
    decide +kernel
  obtain ⟨s, a, b, b', run, restarts, -, -, shown⟩ := exists_of_seen shown
  exact of_decide_eq_true shown ((always lostOne s freeStart b b' run restarts).realised 0)

end PaperAccounts

end TradeResearch.Paper
