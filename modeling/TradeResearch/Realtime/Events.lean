import TradeResearch.Lib.Iso
import TradeResearch.Lib.Json
import TradeResearch.Webhooks.Schema

/-!
# Events on the bus

`Event.encode`, `Event.decode` and the `drain` of `RedisEventBus.subscribe` in
`backend/app/core/events.py`, and `Hub._read_bus` in `backend/app/realtime/hub.py`.

* `decode_encode`: a plain event at a whole millisecond is read back.
* `orderly_decode_iff`: when a text from the bus gives an event or is refused as undecodable.
* `readBus_healthy_iff`: when the reader gets through what arrives.
-/

namespace TradeResearch.Realtime

open Json Iso Encoding
open Webhooks (lit ofChars isSpace)

inductive Undecodable where
  | json
  | digits
  | key
  | isoformat
  deriving DecidableEq

inductive EventError where
  | typeRequired
  | payloadNotObject
  | tooLarge (type : Str)
  | undecodable (why : Undecodable)
  deriving DecidableEq

inductive Raised where
  | eventError (why : EventError)
  | typeError
  | attributeError
  | valueError
  | recursionError
  deriving DecidableEq

def maxPayloadBytes : ℕ := 256 * 1024

structure Event (φ : Type) where
  type : Str
  payload : List (Str × Value φ)
  source : Value φ
  id : Value φ
  at_ : DateTime
  channel : Value φ
  correlationId : Value φ
  userId : Value φ
  accountId : Value φ
  named : type.all isSpace = false

structure Runtime (φ : Type) where
  floats : Floats φ
  limit : ℕ
  otherTime : Str → Option DateTime

namespace Runtime

variable (R : Runtime φ)

def truthy : Value φ → Bool
  | .null => false
  | .bool b => b
  | .int z => z ≠ 0
  | .float x => !R.floats.isZero x
  | .str s => !s.isEmpty
  | .arr items => !items.isEmpty
  | .obj members => !members.isEmpty

def chars (s : Str) : List Char := s.map fun c => Char.ofNat c.val

def fromIsoFormat (s : Str) : Option DateTime := (readIso (chars s)).or (R.otherTime s)

def get (members : List (Str × Value φ)) (key : String) : Option (Value φ) :=
  (members.find? fun m => m.1 = lit key).map Prod.snd

def event (type payload source id : Value φ) (at_ : DateTime)
    (channel correlationId userId accountId : Value φ) : Except Raised (Event φ) :=
  match type with
  | .str s =>
    if blank : s.all isSpace = true then .error (.eventError .typeRequired)
    else
      match payload with
      | .obj members =>
        .ok { type := s, payload := members, source, id, at_, channel, correlationId, userId,
              accountId, named := Bool.eq_false_of_not_eq_true blank }
      | _ => .error (.eventError .payloadNotObject)
  -- only a string has a `strip`
  | type =>
    if R.truthy type = true then .error .attributeError
    else .error (.eventError .typeRequired)

def instant (now : DateTime) (found : Option (Value φ)) : Except Raised DateTime :=
  match found with
  | none => .ok now
  | some v =>
    if R.truthy v = true then
      match v with
      | .str s =>
        match R.fromIsoFormat s with
        | some d => .ok d
        | none => .error (.eventError (.undecodable .isoformat))
      | _ => .error .typeError
    else .ok now

def decode (fresh : Str) (now : DateTime) (raw : List Char) : Except Raised (Event φ) :=
  match R.floats.loads R.limit raw with
  | .error .recursion => .error .recursionError
  | .error .digits => .error (.eventError (.undecodable .digits))
  | .error _ => .error (.eventError (.undecodable .json))
  | .ok (.obj members) =>
    match get members "type" with
    | none => .error (.eventError (.undecodable .key))
    | some type =>
      let payload := (get members "payload").getD .null
      match R.instant now (get members "at") with
      | .error e => .error e
      | .ok at_ =>
        R.event type (if R.truthy payload = true then payload else .obj [])
          ((get members "source").getD (.str (lit "unknown")))
          ((get members "id").getD (.str fresh)) at_
          ((get members "channel").getD .null) ((get members "correlation_id").getD .null)
          ((get members "user_id").getD .null) ((get members "account_id").getD .null)
  -- only an object has keys
  | .ok _ => .error .typeError

def members (e : Event φ) : List (Str × Value φ) :=
  [(lit "id", e.id), (lit "type", .str e.type), (lit "source", e.source),
    (lit "at", .str (ofChars (isoMillis e.at_))), (lit "channel", e.channel),
    (lit "correlation_id", e.correlationId), (lit "user_id", e.userId),
    (lit "account_id", e.accountId), (lit "payload", .obj e.payload)]

def encode (e : Event φ) : Except Raised (List Char) :=
  match Floats.refusal R.limit (.obj (members e)) with
  | some .digits => .error .valueError
  | some .recursion => .error .recursionError
  | none =>
    let body := R.floats.dumps (.obj (members e))
    if maxPayloadBytes < (body.map Char.utf8Size).sum then .error (.eventError (.tooLarge e.type))
    else .ok body

structure Message where
  kind : String
  data : List Char
  fresh : Str
  now : DateTime

def Message.Published (m : Message) : Prop := m.kind = "message" ∨ m.kind = "pmessage"

instance (m : Message) : Decidable m.Published := inferInstanceAs (Decidable (_ ∨ _))

def drain : List Message → List (Event φ) × Option Raised
  | [] => ([], none)
  | m :: rest =>
    if m.Published then
      match R.decode m.fresh m.now m.data with
      | .ok e => (e :: (drain rest).1, (drain rest).2)
      | .error (.eventError _) => drain rest
      | .error raised => ([], some raised)
    else drain rest

def readBus (messages : List Message) : List (Event φ) × Bool :=
  ((R.drain messages).1, (R.drain messages).2.isNone)

structure Plain (e : Event φ) : Prop where
  type : Unpaired e.type
  payload : R.floats.Plain (.obj e.payload)
  source : R.floats.Plain e.source
  id : R.floats.Plain e.id
  channel : R.floats.Plain e.channel
  correlationId : R.floats.Plain e.correlationId
  userId : R.floats.Plain e.userId
  accountId : R.floats.Plain e.accountId

theorem unpaired_ofChars (text : List Char) : Unpaired (ofChars text) := by
  induction text with
  | nil => trivial
  | cons c text ih =>
    cases text with
    | nil => trivial
    | cons d text =>
      have plain := of_decide_eq_false (ofChar_plain c)
      refine ⟨fun both => plain ?_, ih⟩
      have high := of_decide_eq_true both.1
      exact ⟨high.1, high.2.trans (by decide)⟩

theorem chars_ofChars (text : List Char) : chars (ofChars text) = text := by
  unfold chars ofChars
  rw [List.map_map]
  refine (List.map_congr_left fun c _ => ?_).trans (List.map_id text)
  rw [Function.comp_apply, val_ofChar, Char.ofNat_toNat]
  rfl

theorem fromIsoFormat_isoMillis {d : DateTime} (whole : d.time % 1000 = 0) :
    R.fromIsoFormat (ofChars (isoMillis d)) = some d := by
  unfold fromIsoFormat
  rw [chars_ofChars, readIso_isoMillis whole]
  rfl

theorem keys_nodup : ([lit "id", lit "type", lit "source", lit "at", lit "channel",
    lit "correlation_id", lit "user_id", lit "account_id", lit "payload"]).Nodup := by
  decide

theorem plain_members {e : Event φ} (plain : R.Plain e) : R.floats.Plain (.obj (members e)) :=
  ⟨keys_nodup,
    ⟨unpaired_ofChars _, plain.id⟩, ⟨unpaired_ofChars _, plain.type⟩,
    ⟨unpaired_ofChars _, plain.source⟩, ⟨unpaired_ofChars _, unpaired_ofChars _⟩,
    ⟨unpaired_ofChars _, plain.channel⟩, ⟨unpaired_ofChars _, plain.correlationId⟩,
    ⟨unpaired_ofChars _, plain.userId⟩, ⟨unpaired_ofChars _, plain.accountId⟩,
    ⟨unpaired_ofChars _, plain.payload⟩, trivial⟩

theorem instant_isoMillis (now : DateTime) {d : DateTime} (whole : d.time % 1000 = 0) :
    R.instant now (some (.str (ofChars (isoMillis d)))) = .ok d := by
  have some_ : R.truthy (.str (ofChars (isoMillis d))) = true := rfl
  unfold instant
  dsimp only
  rw [if_pos some_, R.fromIsoFormat_isoMillis whole]

theorem payload_or (payload : List (Str × Value φ)) :
    (if R.truthy (.obj payload) = true then Value.obj payload else .obj []) = .obj payload := by
  cases payload with
  | nil | cons m payload => rfl

theorem decode_encode {e : Event φ} (plain : R.Plain e) (whole : e.at_.time % 1000 = 0)
    {body : List Char} (published : R.encode e = .ok body) (fresh : Str) (now : DateTime) :
    R.decode fresh now body = .ok e := by
  have written : Floats.refusal R.limit (.obj (members e)) = none := by
    unfold encode at published
    split at published
    · cases published
    · cases published
    · next none_ => exact none_
  have is : R.floats.dumps (.obj (members e)) = body := by
    unfold encode at published
    rw [written] at published
    dsimp only at published
    split_ifs at published
    exact Except.ok.inj published
  have read := R.floats.loads_dumps (R.plain_members plain) written
  rw [is] at read
  have type : get (members e) "type" = some (.str e.type) := rfl
  have time : get (members e) "at" = some (.str (ofChars (isoMillis e.at_))) := rfl
  have payload : get (members e) "payload" = some (.obj e.payload) := rfl
  have source : get (members e) "source" = some e.source := rfl
  have id_ : get (members e) "id" = some e.id := rfl
  have channel : get (members e) "channel" = some e.channel := rfl
  have correlation : get (members e) "correlation_id" = some e.correlationId := rfl
  have user : get (members e) "user_id" = some e.userId := rfl
  have account : get (members e) "account_id" = some e.accountId := rfl
  unfold decode
  rw [read]
  dsimp only
  rw [type, time, payload, source, id_, channel, correlation, user, account]
  dsimp only [Option.getD_some]
  rw [R.instant_isoMillis now whole, R.payload_or]
  unfold event
  dsimp only
  rw [dif_neg (Bool.eq_false_iff.mp e.named)]

def Orderly : Except Raised (Event φ) → Prop
  | .ok _ => True
  | .error (.eventError _) => True
  | .error _ => False

def IsText (v : Value φ) : Prop := ∃ s, v = .str s

def Mistimed (members : List (Str × Value φ)) : Prop :=
  ∃ s, get members "at" = some (.str s) ∧ s ≠ [] ∧ R.fromIsoFormat s = none

def Timed (members : List (Str × Value φ)) : Prop :=
  ∀ v ∈ get members "at", R.truthy v = true → IsText v

def Tolerable (raw : List Char) : Prop :=
  match R.floats.loads R.limit raw with
  | .error e => e ≠ .recursion
  | .ok (.obj members) =>
    ∀ type ∈ get members "type",
      R.Mistimed members ∨ (R.Timed members ∧ (R.truthy type = true → IsText type))
  | .ok _ => False

theorem event_of_other {type : Value φ} (other : ¬IsText type) (payload source id : Value φ)
    (at_ : DateTime) (channel correlationId userId accountId : Value φ) :
    R.event type payload source id at_ channel correlationId userId accountId =
      if R.truthy type = true then .error .attributeError
      else .error (.eventError .typeRequired) := by
  cases type with
  | str s => exact absurd ⟨s, rfl⟩ other
  | null | bool b | int z | float x | arr items | obj members => rfl

theorem orderly_event_iff (type payload source id : Value φ) (at_ : DateTime)
    (channel correlationId userId accountId : Value φ) :
    Orderly (R.event type payload source id at_ channel correlationId userId accountId) ↔
      (R.truthy type = true → IsText type) := by
  by_cases text : IsText type
  · obtain ⟨s, rfl⟩ := text
    refine iff_of_true ?_ fun _ => ⟨s, rfl⟩
    unfold event
    dsimp only
    split
    · trivial
    · cases payload <;> trivial
  · rw [R.event_of_other text]
    by_cases is : R.truthy type = true
    · rw [if_pos is]
      exact iff_of_false (fun orderly => orderly) fun all => text (all is)
    · rw [if_neg is]
      exact iff_of_true trivial fun truthy => absurd truthy is

theorem instant_of_other {v : Value φ} (other : ¬IsText v) (now : DateTime) :
    R.instant now (some v) = if R.truthy v = true then .error .typeError else .ok now := by
  cases v with
  | str s => exact absurd ⟨s, rfl⟩ other
  | null | bool b | int z | float x | arr items | obj members => rfl

theorem truthy_str {s : Str} (some_ : s ≠ []) : R.truthy (.str s : Value φ) = true := by
  cases s with
  | nil => exact absurd rfl some_
  | cons c s => rfl

theorem instant_of_text {s : Str} (some_ : s ≠ []) (now : DateTime) :
    R.instant now (some (.str s)) =
      match R.fromIsoFormat s with
      | some d => .ok d
      | none => .error (.eventError (.undecodable .isoformat)) :=
  if_pos (R.truthy_str some_)

theorem instant_cases (now : DateTime) (members : List (Str × Value φ)) :
    (R.Mistimed members ∧
      R.instant now (get members "at") = .error (.eventError (.undecodable .isoformat))) ∨
    (¬R.Mistimed members ∧ R.Timed members ∧ ∃ d, R.instant now (get members "at") = .ok d) ∨
    (¬R.Mistimed members ∧ ¬R.Timed members ∧
      R.instant now (get members "at") = .error .typeError) := by
  unfold Mistimed Timed
  cases get members "at" with
  | none => exact .inr (.inl ⟨nofun, nofun, now, rfl⟩)
  | some v =>
    by_cases text : IsText v
    · have timed : ∀ w ∈ some v, R.truthy w = true → IsText w := fun w mem _ =>
        Option.some.inj mem ▸ text
      obtain ⟨s, rfl⟩ := text
      by_cases empty : s = []
      · refine .inr (.inl ⟨?_, timed, now, ?_⟩)
        · rintro ⟨t, same, some_, -⟩
          cases same
          exact some_ empty
        · rw [empty]
          rfl
      · rw [R.instant_of_text empty]
        cases read : R.fromIsoFormat s with
        | none => exact .inl ⟨⟨s, rfl, empty, read⟩, rfl⟩
        | some d =>
          refine .inr (.inl ⟨?_, timed, d, rfl⟩)
          rintro ⟨t, same, -, refused⟩
          cases same
          rw [read] at refused
          cases refused
    · have unread : ¬∃ s, some v = some (.str s) ∧ s ≠ [] ∧ R.fromIsoFormat s = none := by
        rintro ⟨s, same, -⟩
        exact text ⟨s, Option.some.inj same⟩
      rw [R.instant_of_other text]
      by_cases truthy : R.truthy v = true
      · rw [if_pos truthy]
        exact .inr (.inr ⟨unread, fun all => text (all v rfl truthy), rfl⟩)
      · rw [if_neg truthy]
        refine .inr (.inl ⟨unread, fun w mem is => ?_, now, rfl⟩)
        cases mem
        exact absurd is truthy

theorem orderly_decode_iff (fresh : Str) (now : DateTime) (raw : List Char) :
    Orderly (R.decode fresh now raw) ↔ R.Tolerable raw := by
  unfold decode Tolerable
  cases read : R.floats.loads R.limit raw with
  | error e =>
    cases e with
    | recursion => exact iff_of_false id fun other => other rfl
    | digits | decode | starved => exact iff_of_true trivial nofun
  | ok v =>
    cases v with
    | obj members =>
      dsimp only
      cases named : get members "type" with
      | none => exact iff_of_true trivial fun _ mem => nomatch mem
      | some type =>
        obtain ⟨mistimed, is⟩ | ⟨fine, timed, d, is⟩ | ⟨fine, untimed, is⟩ :=
          R.instant_cases now members
        · rw [is]
          exact iff_of_true trivial fun _ _ => .inl mistimed
        · rw [is]
          rw [R.orderly_event_iff]
          refine ⟨fun text w mem => ?_, fun all => ((all type rfl).resolve_left fine).2⟩
          cases mem
          exact .inr ⟨timed, text⟩
        · rw [is]
          exact iff_of_false id fun all => untimed ((all type rfl).resolve_left fine).1
    | null | bool b | int z | float x | str s | arr items => exact Iff.rfl

theorem drain_cons_iff (m : Message) (rest : List Message) :
    (R.drain (m :: rest)).2 = none ↔
      (m.Published → Orderly (R.decode m.fresh m.now m.data)) ∧ (R.drain rest).2 = none := by
  rw [drain]
  by_cases published : m.Published
  · rw [if_pos published]
    cases R.decode m.fresh m.now m.data with
    | ok e => exact (and_iff_right fun _ => trivial).symm
    | error raised =>
      cases raised with
      | eventError why => exact (and_iff_right fun _ => trivial).symm
      | typeError | attributeError | valueError | recursionError =>
        exact iff_of_false nofun fun both => both.1 published
  · rw [if_neg published]
    exact (and_iff_right fun is => absurd is published).symm

theorem readBus_healthy_iff (messages : List Message) :
    (R.readBus messages).2 = true ↔ ∀ m ∈ messages, m.Published → R.Tolerable m.data := by
  unfold readBus
  rw [Option.isNone_iff_eq_none]
  induction messages with
  | nil => exact iff_of_true rfl fun _ mem => nomatch mem
  | cons m rest ih =>
    rw [List.forall_mem_cons, ← ih, drain_cons_iff, R.orderly_decode_iff]

/-- The reader survives a text exactly where it is tolerable, and gets through what arrives exactly
where all of it is; a plain event at a whole millisecond is read back. -/
theorem survives_iff :
    (∀ fresh now raw, Orderly (R.decode fresh now raw) ↔ R.Tolerable raw) ∧
    (∀ messages, (R.readBus messages).2 = true ↔
      ∀ m ∈ messages, m.Published → R.Tolerable m.data) ∧
    ∀ e, R.Plain e → e.at_.time % 1000 = 0 → ∀ body, R.encode e = .ok body →
      ∀ fresh now, R.decode fresh now body = .ok e :=
  ⟨R.orderly_decode_iff, R.readBus_healthy_iff, fun _ plain whole _ published =>
    R.decode_encode plain whole published⟩

end Runtime

def textFloats : Floats (List Char) where
  read := id
  text := id
  nan := "NaN".toList
  infinity negative := if negative then "-Infinity".toList else "Infinity".toList
  isZero x := x = "0.0".toList ∨ x = "-0.0".toList
  Finite := FloatText
  shape _ finite := finite
  read_text _ _ := rfl

def textRuntime : Runtime (List Char) := ⟨textFloats, 1000, fun _ => none⟩

def midnight : DateTime where
  date := ⟨2025, 1, 1⟩
  time := 0
  offset := none
  valid := by decide
  inside := by decide
  day := by decide
  near _ mem := nomatch mem

def published : Event (List Char) where
  type := lit "order.filled"
  payload := [(lit "quantity", .float "0.5".toList)]
  source := .str (lit "api")
  id := .str (lit "7f")
  at_ := midnight
  channel := .str (lit "orders:1")
  correlationId := .null
  userId := .null
  accountId := .null
  named := rfl

example : (textRuntime.encode published).isOk = true := by decide +kernel

/-- An empty array is neither read nor refused as an event, and it ends the reader. -/
theorem not_forall_survived :
    ¬((∀ fresh now raw, Runtime.Orderly (textRuntime.decode fresh now raw)) ∧
      ∀ messages, (textRuntime.readBus messages).2 = true) := by
  intro all
  have goes := all.2 [⟨"message", "[]".toList, [], midnight⟩]
  cases goes

end TradeResearch.Realtime
