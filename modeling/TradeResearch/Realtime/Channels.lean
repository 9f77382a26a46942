import TradeResearch.Lib.Table
import TradeResearch.Webhooks.Schema

/-!
# Channels, and who may subscribe to them

`backend/app/realtime/channels.py`, and what it reads: `user_for_token` of
`backend/app/auth/service.py` over the users, the sessions, the accounts and the bots.

* `Channel.text_injective`: a channel is known by its text.
* `authorize_mono`: what a user may do, the same user with no lower a role may.
-/

namespace TradeResearch.Realtime

open Encoding
open Webhooks (Str lit strip)

inductive Scope where
  | system
  | user
  | account
  | symbol
  | strategy
  | bot
  | model
  deriving DecidableEq, Repr

def Scope.word : Scope → String
  | .system => "system"
  | .user => "user"
  | .account => "account"
  | .symbol => "symbol"
  | .strategy => "strategy"
  | .bot => "bot"
  | .model => "model"

def Scope.all : List Scope := [.system, .user, .account, .symbol, .strategy, .bot, .model]

def Scope.ofWord (head : Str) : Option Scope := Scope.all.find? fun s => lit s.word = head

structure Channel where
  scope : Scope
  ref : Option Str := none
  deriving DecidableEq

def Channel.system : Channel := ⟨.system, none⟩

def colon : CodePoint := CodePoint.ofChar ':'

def Channel.text (channel : Channel) : Str :=
  match channel.ref with
  | none => lit channel.scope.word
  | some ref => lit channel.scope.word ++ colon :: ref

inductive ChannelError where
  | empty
  | tooLong
  | noColon (value : Str)
  | unknownScope (head : Str)
  | systemTakesNoId
  | badId (ref : Str)
  deriving DecidableEq

def isIdCharacter (c : CodePoint) : Bool :=
  (65 ≤ c.val && c.val ≤ 90) || (97 ≤ c.val && c.val ≤ 122) || (48 ≤ c.val && c.val ≤ 57) ||
    c ∈ [CodePoint.ofChar '_', CodePoint.ofChar '.', CodePoint.ofChar ':', CodePoint.ofChar '-']

def isId (ref : Str) : Bool :=
  let body := if ref.getLast? = some (CodePoint.ofChar '\n') then ref.dropLast else ref
  1 ≤ body.length && body.length ≤ 64 && body.all isIdCharacter

def parse (raw : Str) : Except ChannelError Channel :=
  let value := strip raw
  if value = [] then .error .empty
  else if 128 < value.length then .error .tooLong
  else if value = lit "system" then .ok .system
  else if colon ∉ value then .error (.noColon value)
  else
    let head := value.takeWhile (· ≠ colon)
    let ref := (value.dropWhile (· ≠ colon)).tail
    match Scope.ofWord head with
    | none => .error (.unknownScope head)
    | some .system => .error .systemTakesNoId
    | some scope => if isId ref = true then .ok ⟨scope, some ref⟩ else .error (.badId ref)

theorem colon_not_mem (scope : Scope) : colon ∉ lit scope.word := by
  cases scope <;> decide

theorem word_injective {s t : Scope} (same : lit s.word = lit t.word) : s = t := by
  cases s <;> cases t <;> first | rfl | exact absurd same (by decide)

theorem takeWhile_text (channel : Channel) :
    channel.text.takeWhile (· ≠ colon) = lit channel.scope.word := by
  have word : ∀ c ∈ lit channel.scope.word, decide (c ≠ colon) = true := fun c mem =>
    decide_eq_true fun is => colon_not_mem channel.scope (is ▸ mem)
  unfold Channel.text
  cases channel.ref with
  | none => exact List.takeWhile_eq_self_iff.mpr word
  | some ref =>
    rw [List.takeWhile_append_of_pos word, List.takeWhile_cons_of_neg (by simp), List.append_nil]

theorem Channel.text_injective {c d : Channel} (same : c.text = d.text) : c = d := by
  have scope : c.scope = d.scope :=
    word_injective ((takeWhile_text c).symm.trans ((congrArg _ same).trans (takeWhile_text d)))
  obtain ⟨s, ref⟩ := c
  obtain ⟨t, ref'⟩ := d
  cases scope
  have marked : ∀ r, (⟨s, some r⟩ : Channel).text ≠ lit s.word := fun r is =>
    colon_not_mem s (is ▸ List.mem_append_right _ (List.mem_cons_self ..))
  cases ref with
  | none =>
    cases ref' with
    | none => rfl
    | some r => exact absurd same.symm (marked r)
  | some r =>
    cases ref' with
    | none => exact absurd same (marked r)
    | some r' =>
      have tails := List.append_cancel_left same
      rw [(List.cons.inj tails).2]

inductive Role where
  | user
  | trader
  | admin
  deriving DecidableEq, Repr

def Role.rank : Role → ℕ
  | .user => 0
  | .trader => 1
  | .admin => 2

def roleAtLeast (have_ need : Role) : Prop := need.rank ≤ have_.rank

instance (have_ need : Role) : Decidable (roleAtLeast have_ need) :=
  inferInstanceAs (Decidable (_ ≤ _))

structure User where
  id : Str
  role : Role
  isActive : Bool
  deriving DecidableEq

structure AuthSession where
  tokenHash : Str
  userId : Str
  expiresAt : ℕ
  revokedAt : Option ℕ
  deriving DecidableEq

structure Owned where
  id : Str
  userId : Str
  deriving DecidableEq

structure Database where
  users : Table User.id
  sessions : Table AuthSession.tokenHash
  brokerAccounts : Table Owned.id
  paperAccounts : Table Owned.id
  bots : Table Owned.id

def AuthSession.isValid (row : AuthSession) (now : ℕ) : Prop :=
  row.revokedAt = none ∧ now < row.expiresAt

instance (row : AuthSession) (now : ℕ) : Decidable (row.isValid now) :=
  inferInstanceAs (Decidable (_ ∧ _))

namespace Database

variable (db : Database)

def userForToken (now : ℕ) (tokenHash : Str) : Option User :=
  (db.sessions.find? tokenHash).bind fun row =>
    (db.users.find? row.userId).bind fun user =>
      if row.isValid now ∧ user.isActive = true then some user else none

def owns (rows : Table Owned.id) (user : User) (id : Str) : Prop :=
  ∃ row ∈ rows.rows, row.id = id ∧ row.userId = user.id

instance (rows : Table Owned.id) (user : User) (id : Str) : Decidable (owns rows user id) :=
  inferInstanceAs (Decidable (∃ row ∈ rows.rows, _))

def ownsAccount (user : User) (id : Str) : Prop :=
  owns db.brokerAccounts user id ∨ owns db.paperAccounts user id

def ownsBot (user : User) (id : Str) : Prop := owns db.bots user id

instance (user : User) (id : Str) : Decidable (db.ownsAccount user id) :=
  inferInstanceAs (Decidable (_ ∨ _))

instance (user : User) (id : Str) : Decidable (db.ownsBot user id) :=
  inferInstanceAs (Decidable (owns db.bots user id))

end Database

inductive NotAuthorized where
  | userChannel
  | noSuchAccount
  | noSuchBot
  | modelNeedsTrader
  | strategyNeedsTrader
  deriving DecidableEq

def authorize (db : Database) (user : User) (channel : Channel) : Except NotAuthorized Unit :=
  match channel.scope with
  | .system => .ok ()
  | .user => if channel.ref ≠ some user.id then .error .userChannel else .ok ()
  | .symbol => .ok ()
  | .account =>
    if db.ownsAccount user (channel.ref.getD []) then .ok () else .error .noSuchAccount
  | .bot => if db.ownsBot user (channel.ref.getD []) then .ok () else .error .noSuchBot
  | .model => if roleAtLeast user.role .trader then .ok () else .error .modelNeedsTrader
  | .strategy => if roleAtLeast user.role .trader then .ok () else .error .strategyNeedsTrader

def Channel.Private (channel : Channel) : Prop :=
  channel.scope ≠ .system ∧ channel.scope ≠ .symbol

instance (channel : Channel) : Decidable channel.Private := inferInstanceAs (Decidable (_ ∧ _))

theorem authorize_mono {db : Database} {user user' : User} {channel : Channel}
    (same : user'.id = user.id)
    (role : roleAtLeast user.role .trader → roleAtLeast user'.role .trader)
    (may : authorize db user channel = .ok ()) : authorize db user' channel = .ok () := by
  have owned : ∀ rows id, Database.owns rows user id → Database.owns rows user' id :=
    fun _ _ ⟨row, mem, is, owner⟩ => ⟨row, mem, is, owner.trans same.symm⟩
  unfold authorize at may ⊢
  cases scope : channel.scope with
  | system | symbol => rfl
  | user =>
    rw [scope] at may
    rw [same]
    exact may
  | account =>
    rw [scope] at may
    dsimp only at may ⊢
    split_ifs at may with owns
    exact if_pos (owns.imp (owned _ _) (owned _ _))
  | bot =>
    rw [scope] at may
    dsimp only at may ⊢
    split_ifs at may with owns
    exact if_pos (owned _ _ owns)
  | model | strategy =>
    rw [scope] at may
    dsimp only at may ⊢
    split_ifs at may with trader
    exact if_pos (role trader)

end TradeResearch.Realtime
