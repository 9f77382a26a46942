import TradeResearch.Webhooks.Conduct
import TradeResearch.Webhooks.Texts

/-!
# The secret in what is kept

What `redact` leaves of the shared secret, and what of it gets into the rows of a delivery. A text
is clean when the secret is not in it.

* `redact_clean_iff`: what `redact` leaves is clean where the keys and the numbers it keeps are.
* `redact_idem`, `redact_of_untouched`: it changes nothing twice, and nothing without the secret.
* `WebhookGateway.guards_iff`: the rows are clean where what is composed for them is, too.
-/

namespace TradeResearch.Webhooks

open Encoding Dialogue

def Clean (secret text : Str) : Prop := ¬secret <:+: text

structure Redactable (secret : Str) : Prop where
  longer : marker.length < secret.length
  unopened : CodePoint.ofChar '[' ∉ secret
  unclosed : CodePoint.ofChar ']' ∉ secret

theorem Redactable.ne_nil {secret : Str} (can : Redactable secret) : secret ≠ [] := by
  rintro rfl
  exact absurd can.longer (Nat.not_lt_zero _)

theorem Clean.piece {secret s t : Str} (clean : Clean secret t) (piece : s <:+: t) :
    Clean secret s := fun inside => clean (inside.trans piece)

theorem Clean.of_short {secret s : Str} (short : s.length < secret.length) : Clean secret s :=
  fun inside => absurd inside.length_le (not_le.mpr short)

section Payloads

variable (py : Runtime)

mutual

def Json.texts : Json → List Str
  | .obj fields => fieldTexts fields
  | .arr values => valueTexts values
  | .str s => [s]
  | .null => [py.str .null]
  | .bool b => [py.str (.bool b)]
  | .int i => [py.str (.int i)]
  | .float f => [py.str (.float f)]

def valueTexts : List Json → List Str
  | [] => []
  | v :: rest => v.texts ++ valueTexts rest

def fieldTexts : Fields → List Str
  | [] => []
  | (key, v) :: rest => key :: v.texts ++ fieldTexts rest

end

mutual

def Json.keptTexts : Json → List Str
  | .obj fields => keptFieldTexts fields
  | .arr values => keptValueTexts values
  | .str _ => []
  | .null => [py.str .null]
  | .bool b => [py.str (.bool b)]
  | .int i => [py.str (.int i)]
  | .float f => [py.str (.float f)]

def keptValueTexts : List Json → List Str
  | [] => []
  | v :: rest => v.keptTexts ++ keptValueTexts rest

def keptFieldTexts : Fields → List Str
  | [] => []
  | (key, v) :: rest =>
    if isSecretKey py key then keptFieldTexts rest else key :: v.keptTexts ++ keptFieldTexts rest

end

mutual

def Json.Untouched (secret : Str) : Json → Prop
  | .obj fields => FieldsUntouched secret fields
  | .arr values => ValuesUntouched secret values
  | .str s => Clean secret s
  | .null | .bool _ | .int _ | .float _ => True

def ValuesUntouched (secret : Str) : List Json → Prop
  | [] => True
  | v :: rest => v.Untouched secret ∧ ValuesUntouched secret rest

def FieldsUntouched (secret : Str) : Fields → Prop
  | [] => True
  | (key, v) :: rest =>
    isSecretKey py key = false ∧ v.Untouched secret ∧ FieldsUntouched secret rest

end

end Payloads

section Redaction

variable {py : Runtime}

theorem clean_strip_replaceAll (can : Redactable secret) (s : Str) :
    Clean secret (strip (replaceAll secret marker s)) := by
  have short : (lit "redacted").length < secret.length := (by decide : 8 < 10).trans can.longer
  have clean : ¬secret <:+: replaceAll secret
      (CodePoint.ofChar '[' :: lit "redacted" ++ [CodePoint.ofChar ']']) s :=
    not_infix_replaceAll can.ne_nil can.unopened can.unclosed short s
  exact Clean.piece (t := replaceAll secret marker s) clean (trim_inside _ _)

theorem redact_str (can : Redactable secret) (s : Str) :
    ∃ t, redact py secret (.str s) = .str t ∧ Clean secret t ∧ (Clean secret s → t = s) := by
  rw [redact]
  by_cases inside : secret <:+: s
  · rw [if_pos ⟨can.ne_nil, inside⟩]
    exact ⟨_, rfl, clean_strip_replaceAll can s, fun clean => absurd inside clean⟩
  · rw [if_neg fun both => inside both.2]
    exact ⟨s, rfl, inside, fun _ => rfl⟩

theorem redact_clean_iff (can : Redactable secret) (v : Json) :
    (∀ t ∈ (redact py secret v).texts py, Clean secret t) ↔
      ∀ t ∈ v.keptTexts py, Clean secret t := by
  induction v using Json.induction with
  | null | bool _ | int _ | float _ => rfl
  | str s =>
    obtain ⟨t, same, clean, -⟩ : ∃ t, redact py secret (.str s) = .str t ∧ Clean secret t ∧
        (Clean secret s → t = s) := redact_str can s
    rw [same]
    simp only [Json.texts, Json.keptTexts, List.mem_singleton, forall_eq, List.not_mem_nil,
      false_implies, implies_true, iff_true]
    exact clean
  | arr values ih =>
    rw [redact, Json.texts, Json.keptTexts]
    induction values with
    | nil => rfl
    | cons v rest ih' =>
      rw [redactValues, valueTexts, keptValueTexts, List.forall_mem_append,
        List.forall_mem_append, ih v (List.mem_cons_self ..),
        ih' fun v mem => ih v (List.mem_cons_of_mem _ mem)]
  | obj fields ih =>
    rw [redact, Json.texts, Json.keptTexts]
    induction fields with
    | nil => rfl
    | cons field rest ih' =>
      obtain ⟨key, v⟩ := field
      have tail := ih' fun f mem => ih f (List.mem_cons_of_mem _ mem)
      rw [redactFields, keptFieldTexts]
      by_cases secret_ : isSecretKey py key = true
      · rw [if_pos secret_, if_pos secret_]
        exact tail
      · rw [if_neg secret_, if_neg secret_, fieldTexts, List.cons_append, List.cons_append,
          List.forall_mem_cons, List.forall_mem_cons, List.forall_mem_append,
          List.forall_mem_append, ih (key, v) (List.mem_cons_self ..), tail]

theorem redact_of_untouched {v : Json} (untouched : v.Untouched py secret) :
    redact py secret v = v := by
  induction v using Json.induction with
  | null | bool _ | int _ | float _ => rfl
  | str s =>
    exact if_neg fun both => untouched both.2
  | arr values ih =>
    refine congrArg Json.arr ?_
    induction values with
    | nil => rfl
    | cons v rest ih' =>
      rw [redactValues, ih v (List.mem_cons_self ..) untouched.1,
        ih' (fun v mem => ih v (List.mem_cons_of_mem _ mem)) untouched.2]
  | obj fields ih =>
    refine congrArg Json.obj ?_
    induction fields with
    | nil => rfl
    | cons field rest ih' =>
      obtain ⟨key, v⟩ := field
      obtain ⟨other, here, there⟩ := untouched
      rw [redactFields, if_neg (by rw [other]; exact Bool.false_ne_true),
        ih (key, v) (List.mem_cons_self ..) here,
        ih' (fun f mem => ih f (List.mem_cons_of_mem _ mem)) there]

theorem untouched_redact (can : Redactable secret) (v : Json) :
    (redact py secret v).Untouched py secret := by
  induction v using Json.induction with
  | null | bool _ | int _ | float _ => exact True.intro
  | str s =>
    obtain ⟨t, same, clean, -⟩ : ∃ t, redact py secret (.str s) = .str t ∧ Clean secret t ∧
        (Clean secret s → t = s) := redact_str can s
    rw [same]
    exact clean
  | arr values ih =>
    induction values with
    | nil => exact True.intro
    | cons v rest ih' =>
      exact ⟨ih v (List.mem_cons_self ..), ih' fun v mem => ih v (List.mem_cons_of_mem _ mem)⟩
  | obj fields ih =>
    rw [redact, Json.Untouched]
    induction fields with
    | nil => exact True.intro
    | cons field rest ih' =>
      obtain ⟨key, v⟩ := field
      have tail := ih' fun f mem => ih f (List.mem_cons_of_mem _ mem)
      rw [redactFields]
      by_cases secret_ : isSecretKey py key = true
      · rw [if_pos secret_]
        exact tail
      · rw [if_neg secret_]
        exact ⟨Bool.eq_false_iff.mpr secret_, ih (key, v) (List.mem_cons_self ..), tail⟩

theorem redact_idem (can : Redactable secret) (v : Json) :
    redact py secret (redact py secret v) = redact py secret v :=
  redact_of_untouched (untouched_redact can v)

end Redaction

def Question.texts (py : Runtime) : Question → List Str
  | .insertEvent row | .insertRejection row =>
    row.payload.texts py ++ row.error.toList ++ [row.idempotencyKey]
  | .insertSignal row => row.metadata.texts py ++ [row.signalKey]
  | .existing _ | .mapping _ | .qualified _ | .symbol _ | .strategy _ | .version _ _ | .bots _
  | .link _ _ => []

def writing (py : Runtime) (c : Config) (secret : Str) :
    Surroundings Question Question.Answer Unit where
  may _ q := ∀ t ∈ q.texts py, Clean secret t
  can _ q a := c.Says q a
  next _ _ _ := ()

def Config.oracle (c : Config) : (q : Question) → q.Answer
  | .mapping providerSymbol => c.mapping providerSymbol
  | .qualified raw => c.qualified raw
  | .symbol id => c.symbol id
  | .strategy key => c.strategy key
  | .version strategyId number => c.version strategyId number
  | .bots strategyVersionId => c.bots strategyVersionId
  | .existing _ => (none : Option EventRow)
  | .insertEvent _ | .insertSignal _ | .insertRejection _ => true
  | .link _ _ => ()

def looked {α : Type} (c : Config) (x : Delivery α) : Except Raised α := x.eval c.oracle

def Piece (py : Runtime) (safe : Fields) (text : Str) : Prop :=
  ∃ s ∈ fieldTexts py safe, text <:+: s

instance {py : Runtime} {safe : Fields} {text : Str} : Decidable (Piece py safe text) :=
  inferInstanceAs (Decidable (∃ s ∈ fieldTexts py safe, text <:+: s))

namespace WebhookGateway

variable (py : Runtime) (g : WebhookGateway)

def refusalTexts (arrival : Arrival) (key : Option Str) (reason : Str) : List Str :=
  [reason.take 500, (rejectionRow arrival [] reason .weak key).idempotencyKey]

def repeating : List String :=
  ["ticker", "exchange", "timeframe", "strategy_id", "advisory_ignored", "extra", "stop_loss",
    "take_profit"]

def signalTexts (arrival : Arrival) (safe : Fields) (alert : Alert) (symbol : SymbolRow)
    (routing : Routing) : List Str :=
  let entries := metaEntries alert symbol arrival.correlationId routing
  entries.map (fun entry => lit entry.1) ++
    (entries.filter fun entry => entry.1 ∉ repeating).flatMap (fun entry => entry.2.texts py) ++
    alert.advisory.map Prod.fst ++
    ((alert.advisory ++ alert.extra).map Prod.snd).filter fun text => ¬Piece py safe text

def recordTexts (c : Config) (arrival : Arrival) (safe : Fields) (alert : Alert) (key : Str)
    (symbol : SymbolRow) (version : Option Str) : List Str :=
  key ::
    match alert.signalTime.utc, looked c (routeFor version g.mode) with
    | .ok _, .ok routing => signalTexts py arrival safe alert symbol routing
    | _, _ => []

def alertTexts (c : Config) (arrival : Arrival) (safe : Fields) (alert : Alert) (key : Str) :
    List Str :=
  match looked c (resolveSource py alert.ticker) with
  | .error _ => []
  | .ok (.error reason) => refusalTexts arrival (some key) reason
  | .ok (.ok symbol) =>
    match looked c (strategyVersionId py alert) with
    | .error _ => []
    | .ok (.error reason) => refusalTexts arrival (some key) reason
    | .ok (.ok version) => g.recordTexts py c arrival safe alert key symbol version

def intakeTexts (c : Config) (safe : Fields) (arrival : Arrival) : List Str :=
  match g.read py safe arrival.now with
  | .error (.payload reason) => refusalTexts arrival none reason
  | .error _ => []
  | .ok alert =>
    match alert.idempotencyKey py with
    | .error _ => []
    | .ok key => g.alertTexts py c arrival safe alert key

def composedTexts (c : Config) (payload : Fields) (arrival : Arrival) : List Str :=
  match g.admitted py payload arrival with
  | .error _ => []
  | .ok _ =>
    if py.nesting < visitedFields py payload + 1 then []
    else g.intakeTexts py c (redactFields py g.secret payload) arrival

def Keeps (c : Config) (payload : Fields) (arrival : Arrival) : Prop :=
  Always (writing py c g.secret) (fun _ _ => True) (fun _ _ =>
    True) () (g.receive py payload arrival)

end WebhookGateway

section Rows

variable {py : Runtime} {g : WebhookGateway} {c : Config} {arrival : Arrival} {safe : Fields}
  {secret : Str} {alert : Alert} {key : Str} {symbol : SymbolRow} {version : Option Str}

def Cleans (py : Runtime) (c : Config) (secret : Str) {α : Type} (post : α → Prop)
    (x : Delivery α) : Prop :=
  Always (writing py c secret) (fun _ => post) (fun _ _ => True) () x

theorem cleans_looked {α : Type} {x : Delivery α} (looks : Looks (some c) True x)
    {post : α → Prop} :
    Cleans py c secret post x ↔ ∀ a, looked c x = .ok a → post a := by
  have told : ∀ q, (lookups (some c)).may () q → (lookups (some c)).can () q (c.oracle q) ∧
      (writing py c secret).may () q ∧ (∀ a, (writing py c secret).can () q a ↔ a = c.oracle q) ∧
      (writing py c secret).next () q (c.oracle q) = () := by
    intro q lookup
    cases q with
    | mapping | qualified | symbol | strategy | version | bots =>
      exact ⟨fun _ same => Option.some.inj same ▸ rfl, fun _ none => (nomatch none),
        fun _ => Iff.rfl, rfl⟩
    | existing | insertEvent | insertSignal | link | insertRejection => exact lookup.elim
  refine (always_iff_eval looks told).trans ?_
  exact ⟨And.left, fun all => ⟨all, fun _ _ => True.intro⟩⟩

theorem cleans_looked_bind {α β : Type} {x : Delivery α} {f : α → Delivery β}
    (looks : Looks (some c) True x) {post : β → Prop} :
    Cleans py c secret post (x >>= f) ↔
      ∀ a, looked c x = .ok a → Cleans py c secret post (f a) := by
  have first : Cleans py c secret (fun a => Cleans py c secret post (f a)) x ↔
      ∀ a, looked c x = .ok a → Cleans py c secret post (f a) := cleans_looked looks
  exact always_bind.trans first

theorem mem_fieldTexts {fields : Fields} {t : Str} :
    t ∈ fieldTexts py fields ↔ ∃ field ∈ fields, t = field.1 ∨ t ∈ field.2.texts py := by
  induction fields with
  | nil => simp [fieldTexts]
  | cons field rest ih =>
    rw [fieldTexts, List.cons_append, List.mem_cons, List.mem_append, ih, List.exists_mem_cons_iff,
      or_assoc]

def Within (safe : Fields) (v : Json) : Prop := v = .null ∨ ∃ key, (key, v) ∈ safe

theorem within_get (name : String) : Within safe (safe.get name) := by
  unfold Fields.get
  cases found : safe.lookup (lit name) with
  | none => exact .inl rfl
  | some v =>
    obtain ⟨before, after, rfl, -⟩ := List.lookup_eq_some_iff.mp found
    exact .inr ⟨_, List.mem_append_right _ (List.mem_cons_self ..)⟩

theorem within_or {a b : Json} (first : Within safe a) (second : Within safe b) :
    Within safe (a.or b) := by
  rcases Json.or_cases a b with same | same
  · rwa [same]
  · rwa [same]

theorem Clean.of_piece {text : Str} (clean : ∀ t ∈ fieldTexts py safe, Clean secret t)
    (piece : Piece py safe text) : Clean secret text := by
  obtain ⟨t, mem, inside⟩ := piece
  exact (clean t mem).piece inside

theorem textOf_clean (clean : ∀ t ∈ fieldTexts py safe, Clean secret t) {raw : Json} {name : String}
    {required : Bool} {text : Option Str} (within : Within safe raw)
    (ok : textOf raw name required = .ok text) : ∀ s ∈ text, Clean secret s := by
  unfold textOf at ok
  split at ok
  · split_ifs at ok
    · cases ok
    · cases ok
      exact fun _ none => nomatch none
  · split_ifs at ok
    · cases ok
    · cases ok
      exact fun _ none => nomatch none
  · rename_i s _
    split_ifs at ok
    · cases ok
    · cases ok
      rintro _ ⟨⟩
      rcases within with none | ⟨key, mem⟩
      · cases none
      · exact .of_piece clean ⟨s, mem_fieldTexts.mpr ⟨_, mem, .inr (List.mem_singleton_self s)⟩,
          trim_inside _ s⟩
  · cases ok

theorem extraOf_clean (clean : ∀ t ∈ fieldTexts py safe, Clean secret t) :
    ∀ entry ∈ extraOf py safe, Clean secret entry.1 := by
  refine List.foldlRecOn (motive := fun d : List (Str × Str) => ∀ entry ∈ d, Clean secret entry.1)
    _ _ (fun _ none => nomatch none) ?_
  intro d held field mem entry here
  have keyed : Clean secret (field.1.take maxField) :=
    (clean _ (mem_fieldTexts.mpr ⟨field, List.mem_of_mem_filter mem, .inl rfl⟩)).piece
      (List.take_prefix _ _).isInfix
  unfold assign at here
  split_ifs at here
  · obtain ⟨old, was, rfl⟩ := List.mem_map.mp here
    split_ifs
    · exact keyed
    · exact held old was
  · rcases List.mem_append.mp here with old | last
    · exact held entry old
    · rw [List.mem_singleton.mp last]
      exact keyed

structure Alert.Echoes (secret : Str) (a : Alert) : Prop where
  ticker : Clean secret a.ticker
  exchange : ∀ s ∈ a.exchange, Clean secret s
  timeframe : ∀ s ∈ a.timeframe, Clean secret s
  strategy : ∀ s ∈ a.strategy, Clean secret s
  extra : ∀ entry ∈ a.extra, Clean secret entry.1

theorem parseAlert_echoes (can : Redactable secret) (clean : ∀ t ∈ fieldTexts py safe,
    Clean secret t)
    (ok : parseAlert py safe = .ok alert) : alert.Echoes secret := by
  have get : ∀ name, Within safe (safe.get name) := within_get
  obtain ⟨ticker, isTicker, ok⟩ := bind_ok ok
  obtain ⟨action, -, ok⟩ := bind_ok ok
  obtain ⟨time, -, ok⟩ := bind_ok ok
  obtain ⟨exchange, isExchange, ok⟩ := bind_ok ok
  obtain ⟨timeframe, isTimeframe, ok⟩ := bind_ok ok
  obtain ⟨price, -, ok⟩ := bind_ok ok
  obtain ⟨strategy, isStrategy, ok⟩ := bind_ok ok
  obtain ⟨version, -, ok⟩ := bind_ok ok
  obtain ⟨id, -, ok⟩ := bind_ok ok
  cases ok
  refine ⟨?_, textOf_clean clean (get _) isExchange,
    textOf_clean clean (within_or (get _) (get _)) isTimeframe,
    textOf_clean clean (get _) isStrategy, extraOf_clean clean⟩
  cases ticker with
  | none => exact .of_short (List.length_pos_iff.mpr can.ne_nil)
  | some ticker => exact textOf_clean clean (within_or (get _) (get _)) isTicker ticker rfl

theorem ofTexts_clean_iff {d : List (Str × Str)} :
    (∀ t ∈ (Json.ofTexts d).texts py, Clean secret t) ↔
      ∀ entry ∈ d, Clean secret entry.1 ∧ Clean secret entry.2 := by
  constructor
  · intro all entry mem
    have here := List.mem_map_of_mem (f := fun e : Str × Str => (e.1, Json.str e.2)) mem
    exact ⟨all _ (mem_fieldTexts.mpr ⟨_, here, .inl rfl⟩),
      all _ (mem_fieldTexts.mpr ⟨_, here, .inr (List.mem_singleton_self _)⟩)⟩
  · intro all t mem
    obtain ⟨field, here, is⟩ := mem_fieldTexts.mp mem
    obtain ⟨entry, was, rfl⟩ := List.mem_map.mp here
    rcases is with rfl | is
    · exact (all entry was).1
    · rw [List.mem_singleton.mp is]
      exact (all entry was).2

theorem ofText?_clean (can : Redactable secret) (none_ : py.str .null = lit "None")
    {text : Option Str} (clean : ∀ s ∈ text, Clean secret s) :
    ∀ t ∈ (Json.ofText? text).texts py, Clean secret t := by
  intro t mem
  cases text with
  | none =>
    rw [List.mem_singleton.mp mem, none_]
    exact .of_short ((by decide : 4 < 10).trans can.longer)
  | some s =>
    rw [List.mem_singleton.mp mem]
    exact clean s rfl

theorem firstOf_clean {d : List (Str × Str)} (clean : ∀ entry ∈ d, Clean secret entry.2)
    {keys : List String} : ∀ s ∈ firstOf d keys, Clean secret s := by
  intro s found
  obtain ⟨key, -, here⟩ := List.exists_of_findSome?_eq_some found
  obtain ⟨looked, -⟩ := Option.filter_eq_some_iff.mp here
  obtain ⟨before, after, rfl, -⟩ := List.lookup_eq_some_iff.mp looked
  exact clean _ (List.mem_append_right _ (List.mem_cons_self ..))

def Repeats (py : Runtime) (secret : Str) (entries : List (String × Json)) : Prop :=
  ∀ entry ∈ entries, entry.1 ∈ WebhookGateway.repeating →
    ∀ t ∈ entry.2.texts py, Clean secret t

theorem Repeats.append {l₁ l₂ : List (String × Json)} (first : Repeats py secret l₁)
    (second : Repeats py secret l₂) : Repeats py secret (l₁ ++ l₂) := fun entry mem =>
  (List.mem_append.mp mem).elim (first entry) (second entry)

theorem Repeats.cons {name : String} {v : Json} {l : List (String × Json)}
    (first : name ∈ WebhookGateway.repeating → ∀ t ∈ v.texts py, Clean secret t)
    (rest : Repeats py secret l) : Repeats py secret ((name, v) :: l) := fun _ mem =>
  (List.mem_cons.mp mem).elim (fun same => same ▸ first) (rest _)

theorem Repeats.skip {name : String} {v : Json} {l : List (String × Json)}
    (other : name ∉ WebhookGateway.repeating) (rest : Repeats py secret l) :
    Repeats py secret ((name, v) :: l) := .cons (fun is => absurd is other) rest

theorem Repeats.nil : Repeats py secret [] := fun _ none => nomatch none

theorem bracketMeta_repeats (can : Redactable secret) (none_ : py.str .null = lit "None")
    (advised : ∀ entry ∈ alert.advisory, Clean secret entry.2) {uses : Bool} :
    Repeats py secret (bracketMeta alert uses) := by
  unfold bracketMeta
  cases uses with
  | false => exact .skip (by decide) (.skip (by decide) .nil)
  | true =>
    cases found : firstOf alert.advisory ["stop_loss", "sl"] with
    | none => exact .skip (by decide) (.skip (by decide) .nil)
    | some stop =>
      have stopped : ∀ t ∈ (Json.str stop).texts py, Clean secret t := fun t mem => by
        rw [List.mem_singleton.mp mem]
        exact firstOf_clean advised stop found
      exact .skip (by decide) (.cons (fun _ => stopped)
        (.cons (fun _ => ofText?_clean can none_ (firstOf_clean advised)) (.skip (by decide) .nil)))

theorem metaEntries_repeats (can : Redactable secret) (none_ : py.str .null = lit "None")
    (echoes : alert.Echoes secret) (asked : ∀ entry ∈ alert.advisory, Clean secret entry.1)
    (valued : ∀ entry ∈ alert.advisory ++ alert.extra, Clean secret entry.2) {routing : Routing} :
    Repeats py secret (metaEntries alert symbol arrival.correlationId routing) := by
  have advised : ∀ entry ∈ alert.advisory, Clean secret entry.2 := fun entry mem =>
    valued entry (List.mem_append_left _ mem)
  have ticker : ∀ t ∈ (Json.str alert.ticker).texts py, Clean secret t := fun t mem =>
    List.mem_singleton.mp mem ▸ echoes.ticker
  have optional : ∀ {text : Option Str}, (∀ s ∈ text, Clean secret s) →
      ∀ t ∈ (Json.ofText? text).texts py, Clean secret t := ofText?_clean can none_
  have written : ∀ {d : List (Str × Str)},
      (∀ entry ∈ d, Clean secret entry.1 ∧ Clean secret entry.2) →
      ∀ t ∈ (Json.ofTexts d).texts py, Clean secret t := ofTexts_clean_iff.mpr
  have advisory := written fun entry mem => ⟨asked entry mem, advised entry mem⟩
  have extra := written fun entry mem =>
    ⟨echoes.extra entry mem, valued entry (List.mem_append_right _ mem)⟩
  refine Repeats.append ?_ ?_
  · exact .cons (fun _ => ticker) (.cons (fun _ => optional echoes.exchange)
      (.cons (fun _ => optional echoes.timeframe) (.skip (by decide) (.skip (by decide)
        (.cons (fun _ => advisory) (.cons (fun _ => extra) (.skip (by decide) (.skip (by decide)
          (.cons (fun _ => optional echoes.strategy) .nil)))))))))
  · cases routing with
    | route botId accountId riskAmount uses =>
      exact .append (.skip (by decide) (.skip (by decide) (.skip (by decide) .nil)))
        (bracketMeta_repeats can none_ advised)
    | noRoute reason => exact .skip (by decide) .nil

theorem metaOf_clean_iff (can : Redactable secret) (none_ : py.str .null = lit "None")
    (clean : ∀ t ∈ fieldTexts py safe, Clean secret t) (echoes : alert.Echoes secret)
    {routing : Routing} :
    (∀ t ∈ (metaOf alert symbol arrival.correlationId routing).texts py, Clean secret t) ↔
      ∀ t ∈ WebhookGateway.signalTexts py arrival safe alert symbol routing, Clean secret t := by
  unfold metaOf WebhookGateway.signalTexts
  generalize entries_eq : metaEntries alert symbol arrival.correlationId routing = entries
  have told : ∀ {name v}, (name, v) ∈ entries → ∀ {t}, t = lit name ∨ t ∈ v.texts py →
      t ∈ fieldTexts py (entries.map fun entry => (lit entry.1, entry.2)) := fun mem _ is =>
    mem_fieldTexts.mpr ⟨_, List.mem_map_of_mem mem, is⟩
  constructor
  · intro all t mem
    simp only [List.mem_append] at mem
    have advisory : ("advisory_ignored", Json.ofTexts alert.advisory) ∈ entries := by
      rw [← entries_eq]
      simp [metaEntries]
    have extra : ("extra", Json.ofTexts alert.extra) ∈ entries := by
      rw [← entries_eq]
      simp [metaEntries]
    have asked := ofTexts_clean_iff.mp fun t is => all t (told advisory (.inr is))
    have unknown := ofTexts_clean_iff.mp fun t is => all t (told extra (.inr is))
    rcases mem with ((key | value) | key) | value
    · obtain ⟨entry, here, rfl⟩ := List.mem_map.mp key
      exact all _ (told here (.inl rfl))
    · obtain ⟨entry, here, is⟩ := List.mem_flatMap.mp value
      exact all t (told (List.mem_of_mem_filter here) (.inr is))
    · obtain ⟨entry, here, rfl⟩ := List.mem_map.mp key
      exact (asked entry here).1
    · obtain ⟨entry, here, rfl⟩ := List.mem_map.mp (List.mem_of_mem_filter value)
      exact (List.mem_append.mp here).elim (fun was => (asked entry was).2)
        fun was => (unknown entry was).2
  · intro all t mem
    simp only [List.forall_mem_append] at all
    obtain ⟨⟨⟨keys, values⟩, asked⟩, others⟩ := all
    have valued : ∀ entry ∈ alert.advisory ++ alert.extra, Clean secret entry.2 := by
      intro entry here
      by_cases piece : Piece py safe entry.2
      · exact .of_piece clean piece
      · exact others _ (List.mem_filter.mpr ⟨List.mem_map_of_mem here, decide_eq_true piece⟩)
    have repeats : Repeats py secret entries := entries_eq ▸ metaEntries_repeats can none_ echoes
      (fun entry here => asked _ (List.mem_map_of_mem here)) valued
    obtain ⟨field, here, is⟩ := mem_fieldTexts.mp mem
    obtain ⟨entry, was, rfl⟩ := List.mem_map.mp here
    rcases is with rfl | is
    · exact keys _ (List.mem_map_of_mem was)
    · by_cases again : entry.1 ∈ WebhookGateway.repeating
      · exact repeats entry was again t is
      · exact values t (List.mem_flatMap.mpr
          ⟨entry, List.mem_filter.mpr ⟨was, decide_eq_true again⟩, is⟩)

theorem recordRejection_cleans (clean : ∀ t ∈ fieldTexts py safe, Clean secret t)
    {keyed : Option Str} {reason : Str} :
    Cleans py c secret (fun _ => True) (recordRejection arrival safe reason strength keyed) ↔
      ∀ t ∈ WebhookGateway.refusalTexts arrival keyed reason, Clean secret t := by
  have written : Cleans py c secret (fun _ => True)
      (recordRejection arrival safe reason strength keyed) ↔
        ∀ t ∈ (Question.insertRejection (rejectionRow arrival safe reason strength keyed)).texts py,
          Clean secret t := by
    constructor
    · exact fun held => held.1
    · refine fun all => ⟨all, fun (made : Bool) _ => ?_⟩
      cases made <;> exact True.intro
  rw [written]
  have parts :
      (Question.insertRejection (rejectionRow arrival safe reason strength keyed)).texts py =
      fieldTexts py safe ++ WebhookGateway.refusalTexts arrival keyed reason := by
    rw [Question.texts, List.append_assoc]
    rfl
  rw [parts, List.forall_mem_append]
  exact and_iff_right clean

theorem existing_cleans {f : Option EventRow → Delivery Result}
    (known : ∀ row, Cleans py c secret (fun _ => True) (f (some row))) :
    Cleans py c secret (fun _ => True) (Ask.existing key >>= f) ↔
      Cleans py c secret (fun _ => True) (f none) := by
  constructor
  · exact fun held => held.2 none True.intro
  · refine fun held => ⟨fun _ none => (nomatch none), fun (row : Option EventRow) _ => ?_⟩
    cases row with
    | none => exact held
    | some row => exact known row

theorem recordSignal_cleans :
    Cleans py c secret (fun _ => True) (g.recordSignal arrival strength key alert symbol version) ↔
      ∀ routing, looked c (routeFor version g.mode) = .ok routing →
        ∀ utc, alert.signalTime.utc = .ok utc →
          (∀ t ∈ (metaOf alert symbol arrival.correlationId routing).texts py, Clean secret t) ∧
            Clean secret key := by
  refine (cleans_looked_bind routeFor_looks).trans (forall₂_congr fun routing _ => ?_)
  cases alert.signalTime.utc with
  | error e => exact iff_of_true True.intro fun _ other => nomatch other
  | ok utc =>
    have written : (∀ t ∈ (Question.insertSignal
        (g.signalRow arrival strength key alert symbol version routing utc)).texts py,
          Clean secret t) ↔
        (∀ t ∈ (metaOf alert symbol arrival.correlationId routing).texts py, Clean secret t) ∧
          Clean secret key := by
      simp only [Question.texts, WebhookGateway.signalRow, List.forall_mem_append,
        List.forall_mem_singleton]
    constructor
    · rintro held _ ⟨⟩
      exact written.mp held.1
    · refine fun held => ⟨written.mpr (held utc rfl), fun (made : Bool) _ => ?_⟩
      cases made with
      | true | false => exact ⟨fun _ none => (nomatch none), fun _ _ => True.intro⟩

theorem record_cleans (can : Redactable secret) (none_ : py.str .null = lit "None")
    (clean : ∀ t ∈ fieldTexts py safe, Clean secret t) (echoes : alert.Echoes secret) :
    Cleans py c secret (fun _ => True)
        (g.record arrival safe strength key alert symbol version) ↔
      ∀ t ∈ g.recordTexts py c arrival safe alert key symbol version, Clean secret t := by
  have inserted : Cleans py c secret (fun _ => True)
      (g.record arrival safe strength key alert symbol version) ↔ Clean secret key ∧
        Cleans py c secret (fun _ => True)
          (g.recordSignal arrival strength key alert symbol version) := by
    have written : (∀ t ∈ (Question.insertEvent (eventRow arrival safe strength key)).texts py,
        Clean secret t) ↔ Clean secret key := by
      simp only [Question.texts, eventRow, Json.texts, Option.toList_none, List.append_nil,
        List.forall_mem_append, List.forall_mem_singleton]
      exact and_iff_right clean
    constructor
    · exact fun held => ⟨written.mp held.1, held.2 true True.intro⟩
    · refine fun held => ⟨written.mpr held.1, fun (made : Bool) _ => ?_⟩
      cases made with
      | true => exact held.2
      | false => exact ⟨fun _ none => (nomatch none), fun _ _ => True.intro⟩
  rw [inserted, recordSignal_cleans]
  unfold WebhookGateway.recordTexts
  rw [List.forall_mem_cons]
  refine and_congr_right fun keyed => ?_
  cases dated : alert.signalTime.utc with
  | error e => simp
  | ok utc =>
    cases routed : looked c (routeFor version g.mode) with
    | error e => simp
    | ok routing =>
      simp only [Except.ok.injEq, forall_eq']
      exact (and_iff_left keyed).trans (metaOf_clean_iff can none_ clean echoes)

theorem deliver_cleans (can : Redactable secret) (none_ : py.str .null = lit "None")
    (clean : ∀ t ∈ fieldTexts py safe, Clean secret t) (echoes : alert.Echoes secret) :
    Cleans py c secret (fun _ => True) (g.deliver py arrival safe strength alert key) ↔
      ∀ t ∈ g.alertTexts py c arrival safe alert key, Clean secret t := by
  refine (existing_cleans ?_).trans ?_
  · exact fun _ => True.intro
  unfold WebhookGateway.alertTexts
  refine (cleans_looked_bind resolveSource_looks).trans ?_
  cases looked c (resolveSource py alert.ticker) with
  | error e => simp
  | ok resolved =>
    simp only [Except.ok.injEq, forall_eq']
    cases resolved with
    | error reason => exact recordRejection_cleans clean
    | ok symbol =>
      refine (cleans_looked_bind strategyVersionId_looks).trans ?_
      cases looked c (strategyVersionId py alert) with
      | error e => simp
      | ok found =>
        simp only [Except.ok.injEq, forall_eq']
        cases found with
        | error reason => exact recordRejection_cleans clean
        | ok version => exact record_cleans can none_ clean echoes

theorem intake_cleans (can : Redactable secret) (none_ : py.str .null = lit "None")
    (clean : ∀ t ∈ fieldTexts py safe, Clean secret t) :
    Cleans py c secret (fun _ => True) (g.intake py safe arrival strength) ↔
      ∀ t ∈ g.intakeTexts py c safe arrival, Clean secret t := by
  unfold WebhookGateway.intake WebhookGateway.intakeTexts
  cases reading : g.read py safe arrival.now with
  | error e =>
    cases e with
    | payload reason => exact recordRejection_cleans clean
    | _ => exact iff_of_true True.intro fun _ none => by cases none
  | ok alert =>
    have echoes : alert.Echoes secret := by
      obtain ⟨parsed, isParsed, ok⟩ := bind_ok reading
      obtain ⟨_, -, ok⟩ := bind_ok ok
      cases ok
      exact parseAlert_echoes can clean isParsed
    simp only
    cases alert.idempotencyKey py with
    | error e => exact iff_of_true True.intro fun _ none => by cases none
    | ok key => exact deliver_cleans can none_ clean echoes

end Rows

structure WebhookGateway.Guards (g : WebhookGateway) (py : Runtime) (c : Config) (payload : Fields)
    (arrival : Arrival) : Prop where
  redacted : ∀ t ∈ (redact py g.secret (.obj payload)).texts py, Clean g.secret t
  kept : g.Keeps py c payload arrival
  again : redact py g.secret (redact py g.secret (.obj payload)) = redact py g.secret (.obj payload)
  same : (Json.obj payload).Untouched py g.secret → redact py g.secret (.obj payload) = .obj payload

section Deliveries

variable {py : Runtime} {g : WebhookGateway} {c : Config} {payload : Fields}

theorem keeps_iff (can : Redactable g.secret) (none_ : py.str .null = lit "None")
    (clean : ∀ t ∈ (redact py g.secret (.obj payload)).texts py, Clean g.secret t) :
    g.Keeps py c payload arrival ↔
      ∀ t ∈ g.composedTexts py c payload arrival, Clean g.secret t := by
  unfold WebhookGateway.Keeps WebhookGateway.receive WebhookGateway.composedTexts
  cases g.admitted py payload arrival with
  | error e => exact iff_of_true True.intro fun _ none => by cases none
  | ok strength =>
    simp only
    by_cases deep : py.nesting < visitedFields py payload + 1
    · rw [if_pos deep, if_pos deep]
      exact iff_of_true True.intro fun _ none => by cases none
    · rw [if_neg deep, if_neg deep]
      exact intake_cleans can none_ clean

/-- The secret is not kept exactly where it is not in a key or a number of the payload nor in what
is composed of what is left of it. -/
theorem guards_iff (can : Redactable g.secret) (none_ : py.str .null = lit "None") :
    g.Guards py c payload arrival ↔
      (∀ t ∈ (Json.obj payload).keptTexts py, Clean g.secret t) ∧
        ∀ t ∈ g.composedTexts py c payload arrival, Clean g.secret t := by
  rw [← redact_clean_iff can]
  constructor
  · exact fun guards => ⟨guards.redacted, (keeps_iff can none_ guards.redacted).mp guards.kept⟩
  · rintro ⟨redacted, composed⟩
    exact ⟨redacted, (keeps_iff can none_ redacted).mpr composed, redact_idem can _,
      redact_of_untouched⟩

end Deliveries

theorem sampleGate_redactable : Redactable sampleGate.secret where
  longer := by decide
  unopened := by decide
  unclosed := by decide

theorem guards_iff_of_sample :
    sampleGate.Guards (sample []) sampleTables sampleAlert (sampleArrival 1 2) ↔
      (∀ t ∈ (Json.obj sampleAlert).keptTexts (sample []), Clean sampleGate.secret t) ∧
        ∀ t ∈ sampleGate.composedTexts (sample []) sampleTables sampleAlert (sampleArrival 1 2),
          Clean sampleGate.secret t :=
  guards_iff sampleGate_redactable rfl

/-- A key that is the secret is kept. -/
theorem not_forall_guards : ¬∀ (py : Runtime) (g : WebhookGateway) (c : Config) (payload : Fields)
    (arrival : Arrival), Redactable g.secret → py.str .null = lit "None" →
      g.Guards py c payload arrival := by
  intro claimed
  have guards := claimed (sample []) sampleGate sampleTables
    (sampleAlert ++ [(sampleGate.secret, .int 1)]) (sampleArrival 1 2) sampleGate_redactable rfl
  refine guards.redacted sampleGate.secret ?_ List.infix_rfl
  decide

end TradeResearch.Webhooks
