import BolterTrader.Streams.CallbackLifecycle

/-! The clients that drive the callback dispatchers (`sdk/hyperliquid/ws_client.go`,
`sdk/nado/ws_account.go`): which operations they issue, and in which order. -/
namespace BolterTrader.CallbackDispatch
open Foundations Transition List Option

inductive Client where
  | hyperliquid
  | nado
  deriving DecidableEq

/-- Where the read loop of a Nado connection stands that has ended: it gave the connection up, or it
has decided which call of the dispatcher it makes. -/
inductive Leaving (κ : Type) where
  | done
  | left (conn : κ)
  | gap (generation : ℕ)
  | discard (generation : ℕ) (conn : κ)
  deriving DecidableEq

/-- A client with its dispatcher. `completing` are the recoveries of Hyperliquid that are decided and not
queued yet, `restoring` and `dropping` the progress of Nado's `connectAndRestore`. The sockets that were
activated stand in `opened`, those whose recovery was decided in `settled`. -/
structure System (κ δ : Type) where
  dispatcher : Dispatcher κ δ
  conn : Option κ := none
  recovering : Bool := false
  generation : ℕ := 0
  cancelled : Bool := false
  dialing : Bool := false
  completing : List (ℕ × κ) := []
  leaving : Leaving κ := .done
  restoring : Option κ := none
  dropping : Option ℕ := none
  opened : List κ := []
  settled : List κ := []

inductive ClientEvent (κ δ : Type) where
  | cancel
  | dial
  | dialFailed
  | activate (conn : κ)
  | failConnection (conn : κ)
  | completeReconnect (conn : κ)
  | enqueueRecovered (i : ℕ)
  | exit (conn : κ)
  | beginReconnect
  | leave
  | completeReconnectOn
  | restored
  | dropConnection
  | discard
  | enqueueData (conn : κ) (payloads : List δ)
  | signal
  | wake
  | take
  | finish

section
variable {κ δ : Type} [DecidableEq κ]

/-! ## The critical sections of the clients -/

namespace System
variable (s : System κ δ)

/-- A dial begins when the client has no socket and, for Nado, when the loops of the last socket have
ended and no other `connectAndRestore` runs. -/
def MayDial : Prop :=
  s.conn = none ∧ s.dialing = false ∧ s.cancelled = false ∧ s.leaving = .done ∧ s.restoring = none

instance : Decidable s.MayDial := inferInstanceAs (Decidable (_ ∧ _))

def activate (client : Client) (conn : κ) : System κ δ :=
  {s with
    dialing := false
    conn := some conn
    opened := s.opened ++ [conn]
    restoring := if client = .nado then some conn else none
    dispatcher := s.dispatcher.activateConnection s.generation conn s.recovering}

def failConnection (conn : κ) : System κ δ :=
  if s.conn ≠ some conn then s
  else if s.recovering = false ∧ s.cancelled = false then
    {s with
      conn := none
      recovering := true
      generation := s.generation + 1
      dispatcher := s.dispatcher.beginGap (s.generation + 1)}
  else if s.recovering then
    {s with conn := none, dispatcher := s.dispatcher.discardReplacement s.generation conn}
  else {s with conn := none}

def completeReconnect (conn : κ) : System κ δ :=
  if s.conn ≠ some conn ∨ s.recovering = false then s
  else
    {s with
      recovering := false
      completing := s.completing ++ [(s.generation, conn)]
      settled := s.settled ++ [conn]}

/-- The first section of the end of Nado's `readLoop`. -/
def exit (conn : κ) : System κ δ :=
  if s.conn ≠ some conn then s
  else {s with conn := none, leaving := if s.cancelled then s.leaving else .left conn}

def beginReconnect (conn : κ) : System κ δ :=
  if s.recovering then {s with leaving := .discard s.generation conn}
  else
    {s with
      recovering := true
      generation := s.generation + 1
      leaving := .gap (s.generation + 1)}

def completeReconnectOn (conn : κ) : System κ δ :=
  if s.conn ≠ some conn then s
  else if s.recovering = false then {s with restoring := none}
  else if (s.dispatcher.enqueueRecovered s.generation conn).2 then
    {s with
      recovering := false
      restoring := none
      settled := s.settled ++ [conn]
      dispatcher := (s.dispatcher.enqueueRecovered s.generation conn).1}
  else s

def dropConnection (conn : κ) : System κ δ :=
  {s with
    conn := if s.conn = some conn then none else s.conn
    dropping := some s.generation}

def work (event : Event κ δ) : Option (System κ δ) :=
  (CallbackDispatch.step s.dispatcher event).map fun dispatcher => {s with dispatcher}

end System

/-- One step of a client, of the readers of its sockets or of the worker. -/
def System.step (client : Client) (s : System κ δ) : ClientEvent κ δ → Option (System κ δ)
  | .cancel => some {s with cancelled := true}
  | .dial => if s.MayDial then some {s with dialing := true} else none
  | .dialFailed => if s.dialing then some {s with dialing := false} else none
  | .activate conn =>
    if s.dialing = true ∧ conn ∉ s.opened then some (s.activate client conn) else none
  | .failConnection conn => if client = .hyperliquid then some (s.failConnection conn) else none
  | .completeReconnect conn => if client = .hyperliquid then some (s.completeReconnect conn) else none
  | .enqueueRecovered i =>
    s.completing[i]?.map fun recovery =>
      {s with
        completing := s.completing.eraseIdx i
        dispatcher := (s.dispatcher.enqueueRecovered recovery.1 recovery.2).1}
  | .exit conn => if client = .nado then some (s.exit conn) else none
  | .beginReconnect =>
    match s.leaving with
    | .left conn => some (s.beginReconnect conn)
    | _ => none
  | .leave =>
    match s.leaving with
    | .gap generation =>
      some {s with leaving := .done, dispatcher := s.dispatcher.beginGap generation}
    | .discard generation conn =>
      some {s with leaving := .done, dispatcher := s.dispatcher.discardReplacement generation conn}
    | _ => none
  | .completeReconnectOn =>
    if s.dropping = none then s.restoring.map s.completeReconnectOn else none
  | .restored => if s.dropping = none then s.restoring.map fun _ => {s with restoring := none} else none
  | .dropConnection => if s.dropping = none then s.restoring.map s.dropConnection else none
  | .discard =>
    s.dropping.bind fun generation => s.restoring.map fun conn =>
      {s with
        dropping := none
        restoring := none
        dispatcher := s.dispatcher.discardReplacement generation conn}
  | .enqueueData conn payloads => s.work (.enqueueData conn payloads)
  | .signal => s.work .signal
  | .wake => s.work .wake
  | .take => s.work .take
  | .finish => s.work .finish

/-! ## What the operations leave of a dispatcher -/

variable {d next : Dispatcher κ δ} {event : Event κ δ} {k : κ}

/-- A `Recovered` of the socket is queued or runs. -/
def Recovers (d : Dispatcher κ δ) (k : κ) : Prop :=
  (∃ generation, .recovered generation k ∈ d.queue) ∨ ∃ generation, d.worker.recovered? = some (generation, k)

/-- Only `enqueueRecovered` makes a socket recover. -/
theorem recovers_of_moves (hmoves : Moves d event next) (h : Recovers next k) :
    Recovers d k ∨ ∃ generation, event = .enqueueRecovered generation k := by
  cases hmoves with
  | recovered generation conn =>
    rcases h with ⟨g, hmem⟩ | hrun
    · rcases mem_append.mp hmem with hmem | hmem
      · exact .inl (.inl ⟨g, (mem_filter.mp hmem).1⟩)
      · obtain ⟨rfl, rfl⟩ : g = generation ∧ k = conn := by simpa using hmem
        exact .inr ⟨g, rfl⟩
    · exact .inl (.inr hrun)
  | delivered callback rest hworker hqueue =>
    refine .inl (.inl ?_)
    rw [hqueue]
    rcases h with ⟨g, hmem⟩ | ⟨g, hrun⟩
    · exact ⟨g, mem_cons_of_mem _ hmem⟩
    · cases callback with
      | recovered => cases hrun; exact ⟨g, mem_cons_self⟩
      | _ => cases hrun
  | skipped generation conn rest hworker hqueue =>
    refine .inl (h.imp_left fun ⟨g, hmem⟩ => ⟨g, ?_⟩)
    grind
  | gapBegun generation =>
    refine .inl (h.imp_left fun ⟨g, hmem⟩ => ⟨g, ?_⟩)
    replace hmem : Callback.recovered g k ∈ if d.NeedsStarted then withoutRecovered d.queue ++
        [.started generation] else withoutRecovered d.queue := hmem
    split at hmem
    · simpa using (mem_append.mp hmem).imp_left fun h => (mem_filter.mp h).1
    · exact (mem_filter.mp hmem).1
  | replaced | discarded =>
    exact .inl (h.imp_left fun ⟨g, hmem⟩ => ⟨g, (mem_filter.mp hmem).1⟩)
  | appended | closed =>
    rcases h with ⟨g, hmem⟩ | ⟨g, hrun⟩
    · refine .inl (.inl ⟨g, (mem_append.mp hmem).resolve_right fun hmem => ?_⟩)
      grind
    · first | exact .inl (.inr ⟨g, hrun⟩) | cases hrun
  | reset | stopped =>
    rcases h with ⟨g, hmem⟩ | hrun
    · cases hmem
    · exact .inl (.inr hrun)
  | woken | ended | rested | returned => exact .inl (.inl (h.resolve_right nofun))
  | _ => exact .inl h

theorem current_of_moves (hmoves : Moves d event next) (h : next.currentConn = some k) :
    d.currentConn = some k ∨ ∃ generation recovering, event = .activateConnection generation k recovering := by
  cases hmoves with
  | activated generation conn recovering =>
    cases h
    grind
  | replaced generation conn =>
    cases h
    grind
  | left generation conn | discarded generation conn =>
    replace h : (if d.currentConn = some conn then none else d.currentConn) = some k := h
    grind
  | gapBegun | reset | stopped => cases h
  | _ => exact .inl h

theorem used_of_moves (hmoves : Moves d event next) {generation : ℕ} (h : generation ∈ next.used) :
    generation ∈ d.used ∨ event = .beginGap generation := by
  cases hmoves with
  | gapBegun => simpa [Dispatcher.openGap, eq_comm] using h
  | _ => exact .inl h

/-- What a step may add to a dispatcher: a recovery, its socket or a generation. -/
structure Adds (d : Dispatcher κ δ) (event : Event κ δ) (next : Dispatcher κ δ) : Prop where
  recovers : ∀ k, Recovers next k → Recovers d k ∨ ∃ generation, event = .enqueueRecovered generation k
  current : ∀ k, next.currentConn = some k → d.currentConn = some k ∨
    ∃ generation recovering, event = .activateConnection generation k recovering
  used : ∀ generation ∈ next.used, generation ∈ d.used ∨ event = .beginGap generation

theorem adds_of_step (hstep : step d event = some next) :
    Adds d event next where
  recovers _ := recovers_of_moves (moves_of_step hstep)
  current _ := current_of_moves (moves_of_step hstep)
  used _ := used_of_moves (moves_of_step hstep)

omit [DecidableEq κ] in
theorem current_beginGap (generation : ℕ) (hgoing : d.stopped = false) :
    (d.beginGap generation).currentConn = none := by
  simp [Dispatcher.beginGap, hgoing, Dispatcher.openGap]

theorem current_discard {generation : ℕ} {conn : κ}
    (h : (d.discardReplacement generation conn).currentConn = some k) : d.currentConn = some k ∧ k ≠ conn := by
  have hleave : (if d.currentConn = some conn then none else d.currentConn) = some k := by
    unfold Dispatcher.discardReplacement at h
    split at h <;> exact h
  grind

/-! ## The turns of a client -/

/-- The read loop that ends has yet to take the socket from the dispatcher. -/
@[grind] def Leaving.Concerns (k : κ) : Leaving κ → Prop
  | .done => False
  | .left conn | .discard _ conn => conn = k
  | .gap _ => True

/-- What a client keeps: a socket is settled once, a socket that is left or dropped during a recovery was
not settled, and a dial finds no socket. -/
structure System.Turns (client : Client) (s : System κ δ) : Prop where
  opened : ∀ k, s.conn = some k → k ∈ s.opened
  settled : ∀ k ∈ s.settled, k ∈ s.opened
  current : s.recovering = true → ∀ k, s.conn = some k → k ∉ s.settled
  left : s.recovering = true → ∀ k, s.leaving = .left k → k ∉ s.settled
  discarded : ∀ generation k, s.leaving = .discard generation k → k ∉ s.settled
  restoring : ∀ k, s.restoring = some k → k ∉ s.settled
  vacant : s.leaving ≠ .done → s.conn = none
  dialing : s.dialing = true → s.conn = none ∧ s.leaving = .done ∧ s.restoring = none
  single : client = .hyperliquid → s.leaving = .done ∧ s.restoring = none
  completing : ∀ recovery ∈ s.completing, recovery.2 ∈ s.settled
  used : ∀ generation ∈ s.dispatcher.used, generation ≤ s.generation
  gap : ∀ generation, s.leaving = .gap generation →
    generation ≤ s.generation ∧ ∀ earlier ∈ s.dispatcher.used, earlier < generation
  recovers : ∀ k, Recovers s.dispatcher k → k ∈ s.settled
  idle : s.dialing = true → ∀ k, s.dispatcher.currentConn ≠ some k
  serves : ∀ k, s.dispatcher.currentConn = some k → s.conn = some k ∨ s.cancelled = true ∨
    s.leaving.Concerns k ∨ s.restoring = some k ∧ s.dropping ≠ none

omit [DecidableEq κ] in
theorem System.turns_new (client : Client) (limit : ℕ) :
    System.Turns client ({dispatcher := {limit}} : System κ δ) := by
  constructor <;> simp [Recovers, Worker.recovered?]

/-! ## A client and its dispatcher -/

/-- The dispatcher of a client orders its queue and alternates its lifecycle callbacks. -/
structure System.Sound (client : Client) (s : System κ δ) : Prop where
  turns : s.Turns client
  order : QueueOrder s.dispatcher
  lifecycle : Lifecycle s.dispatcher

namespace System.Sound
variable {client : Client} {s t : System κ δ} {conn : κ}

theorem of_call (h : s.Sound client) (event : Event κ δ) (horderly : Orderly s.dispatcher event)
    (hstep : CallbackDispatch.step s.dispatcher event = some t.dispatcher)
    (hturns : Adds s.dispatcher event t.dispatcher → t.Turns client) : t.Sound client where
  turns := hturns (adds_of_step hstep)
  order := h.order.of_step (newGap_of_orderly horderly) hstep
  lifecycle := h.lifecycle.of_step h.order horderly hstep

omit [DecidableEq κ] in
theorem of_same (h : s.Sound client) (hsame : t.dispatcher = s.dispatcher) (hturns : t.Turns client) :
    t.Sound client :=
  ⟨hturns, hsame ▸ h.order, hsame ▸ h.lifecycle⟩

theorem discardReplacement (h : s.Sound client) (generation : ℕ) (hother : conn ∉ s.settled)
    (hdispatcher : t.dispatcher = s.dispatcher.discardReplacement generation conn)
    (hturns : Adds s.dispatcher (.discardReplacement generation conn) t.dispatcher →
      (∀ k, t.dispatcher.currentConn = some k → s.dispatcher.currentConn = some k ∧ k ≠ conn) → t.Turns client) :
    t.Sound client := by
  refine h.of_call (.discardReplacement generation conn) ?_ (congrArg some hdispatcher.symm) fun hadds => ?_
  · rintro recovery hrecovery rfl
    exact hother (h.turns.recovers _ (.inr ⟨recovery.1, hrecovery⟩))
  · exact hturns hadds fun k hk => current_discard (hdispatcher ▸ hk)

theorem beginGap (h : s.Sound client) (generation : ℕ) (hnew : generation ∉ s.dispatcher.used)
    (hdispatcher : t.dispatcher = s.dispatcher.beginGap generation)
    (hturns : Adds s.dispatcher (.beginGap generation) t.dispatcher → t.dispatcher.currentConn = none →
      t.Turns client) : t.Sound client :=
  h.of_call (.beginGap generation) hnew (congrArg some hdispatcher.symm) fun hadds =>
    hturns hadds (hdispatcher ▸ current_beginGap generation h.lifecycle.going)

theorem failConnection (h : s.Sound client) (hclient : client = .hyperliquid) (conn : κ) :
    (s.failConnection conn).Sound client := by
  obtain ⟨⟩ := id h.turns
  unfold System.failConnection
  split
  · exact h
  next hconn =>
  split
  · refine h.beginGap (s.generation + 1) (fun hmem => ?_) rfl fun ⟨_, _, _⟩ _ => ?_
    · grind
    · constructor <;> grind -linarith -ring
  split
  · refine h.discardReplacement s.generation ?_ rfl fun ⟨_, _, _⟩ _ => ?_
    · grind
    · constructor <;> grind -linarith -ring
  · refine h.of_same rfl ?_
    constructor <;> grind -linarith -ring

theorem completeReconnectOn (h : s.Sound client) (hrestoring : s.restoring = some conn) :
    (s.completeReconnectOn conn).Sound client := by
  obtain ⟨⟩ := id h.turns
  unfold System.completeReconnectOn
  split
  · exact h
  split
  · refine h.of_same rfl ?_
    constructor <;> grind -linarith -ring
  split
  · refine h.of_call (.enqueueRecovered s.generation conn) trivial rfl fun ⟨_, _, _⟩ => ?_
    constructor <;> grind -linarith -ring
  · exact h

theorem leave (h : s.Sound client) (hstep : s.step client .leave = some t) : t.Sound client := by
  obtain ⟨⟩ := id h.turns
  simp only [System.step] at hstep
  split at hstep
  · next generation hleaving =>
    cases hstep
    refine h.beginGap generation (fun hmem => ?_) rfl fun ⟨_, _, _⟩ _ => ?_
    · grind
    · constructor <;> grind -linarith -ring
  · next generation conn hleaving =>
    cases hstep
    refine h.discardReplacement generation (h.turns.discarded _ _ hleaving) rfl fun ⟨_, _, _⟩ _ => ?_
    constructor <;> grind -linarith -ring
  · cases hstep

/-- A step of the worker or of a reader leaves the turns as they are. -/
theorem work (h : s.Sound client) {event : Event κ δ} (hwork : s.work event = some t)
    (horderly : Orderly s.dispatcher event) (hrecovered : ∀ generation k, event ≠ .enqueueRecovered generation k)
    (hactivate : ∀ generation k recovering, event ≠ .activateConnection generation k recovering)
    (hgap : ∀ generation, event ≠ .beginGap generation) : t.Sound client := by
  obtain ⟨⟩ := id h.turns
  obtain ⟨next, hstep, rfl⟩ := map_eq_some_iff.mp hwork
  refine h.of_call event horderly hstep fun ⟨_, _, _⟩ => ?_
  constructor <;> grind -linarith -ring

theorem of_step (h : s.Sound client) {event : ClientEvent κ δ} (hstep : s.step client event = some t) :
    t.Sound client := by
  have hturns := h.turns
  obtain ⟨⟩ := id h.turns
  cases event with
  | leave => exact h.leave hstep
  | enqueueData | signal | wake | take | finish => exact h.work hstep trivial nofun nofun nofun
  | cancel =>
    cases hstep
    refine h.of_same rfl ?_
    constructor <;> grind -linarith -ring
  | dial | dialFailed =>
    obtain ⟨hmay, heq⟩ := ite_none_right_eq_some.mp hstep
    cases heq
    refine h.of_same rfl ?_
    constructor <;> grind -linarith -ring [System.MayDial]
  | activate conn =>
    obtain ⟨⟨hdial, hnew⟩, heq⟩ := ite_none_right_eq_some.mp hstep
    cases heq
    -- a dial finds no current socket, so no `Recovered` that runs is current
    refine h.of_call (.activateConnection s.generation conn s.recovering)
      (fun _ _ hcurrent => absurd hcurrent.2.2.1 (hturns.idle hdial _)) rfl fun ⟨_, _, _⟩ => ?_
    constructor <;> grind -linarith -ring [System.activate]
  | failConnection conn =>
    obtain ⟨hclient, heq⟩ := ite_none_right_eq_some.mp hstep
    cases heq
    exact h.failConnection hclient conn
  | completeReconnect conn =>
    obtain ⟨hclient, heq⟩ := ite_none_right_eq_some.mp hstep
    cases heq
    unfold System.completeReconnect
    split
    · exact h
    · refine h.of_same rfl ?_
      constructor <;> grind -linarith -ring
  | enqueueRecovered i =>
    obtain ⟨recovery, hget, rfl⟩ := map_eq_some_iff.mp hstep
    have hmem := mem_of_getElem? hget
    have hsub := fun r => @mem_of_mem_eraseIdx _ s.completing i r
    refine h.of_call (.enqueueRecovered recovery.1 recovery.2) trivial rfl fun ⟨_, _, _⟩ => ?_
    constructor <;> grind -linarith -ring
  | exit conn =>
    obtain ⟨hclient, heq⟩ := ite_none_right_eq_some.mp hstep
    cases heq
    unfold System.exit
    split
    · exact h
    · refine h.of_same rfl ?_
      constructor <;> grind -linarith -ring
  | beginReconnect =>
    simp only [System.step] at hstep
    split at hstep
    · cases hstep
      unfold System.beginReconnect
      split
      · refine h.of_same rfl ?_
        constructor <;> grind -linarith -ring
      · refine h.of_same rfl ?_
        constructor <;> grind -linarith -ring
    · cases hstep
  | completeReconnectOn =>
    obtain ⟨-, heq⟩ := ite_none_right_eq_some.mp hstep
    obtain ⟨conn, hrestoring, rfl⟩ := map_eq_some_iff.mp heq
    exact h.completeReconnectOn hrestoring
  | restored | dropConnection =>
    obtain ⟨hdropping, heq⟩ := ite_none_right_eq_some.mp hstep
    obtain ⟨conn, hrestoring, rfl⟩ := map_eq_some_iff.mp heq
    refine h.of_same rfl ?_
    constructor <;> grind -linarith -ring [System.dropConnection]
  | discard =>
    obtain ⟨generation, -, heq⟩ := bind_eq_some_iff.mp hstep
    obtain ⟨conn, hrestoring, rfl⟩ := map_eq_some_iff.mp heq
    refine h.discardReplacement generation (hturns.restoring conn hrestoring) rfl fun ⟨_, _, _⟩ _ => ?_
    constructor <;> grind -linarith -ring

end System.Sound

/-- Whatever a client and the worker of its dispatcher do, in any order, the lifecycle callbacks that are
delivered are a `Started`, a `Recovered`, a `Started` and so on. -/
theorem lifecycle_alternates {client : Client} {limit : ℕ} {events : List (ClientEvent κ δ)} {s : System κ δ}
    (hrun : run (System.step client) {dispatcher := {limit}} events = some s) :
    Alternates (lifecycleOf s.dispatcher.delivered) := by
  have hnew : System.Sound client ({dispatcher := {limit}} : System κ δ) :=
    ⟨System.turns_new client limit, queueOrder_empty limit, lifecycle_empty limit⟩
  exact (Transition.invariant (System.Sound client) (fun _ _ _ h hstep => h.of_step hstep) hnew hrun).lifecycle.alternates

end

namespace Scenario

/-- A second loss of the connection overtakes the `Recovered` of the first while it runs. -/
def hyperliquidEvents : List (ClientEvent ℕ ℕ) :=
  [.dial, .activate 7, .failConnection 7, .signal, .wake, .take, .dial, .finish, .activate 8,
    .enqueueData 8 [1], .completeReconnect 8, .enqueueRecovered 0, .take, .failConnection 8, .dial,
    .activate 9, .finish, .take]

/-- The first replacement cannot be restored, the second recovers. -/
def nadoEvents : List (ClientEvent ℕ ℕ) :=
  [.dial, .activate 7, .restored, .exit 7, .beginReconnect, .leave, .signal, .wake, .take, .finish,
    .dial, .activate 8, .dropConnection, .discard, .dial, .activate 9, .enqueueData 9 [1],
    .completeReconnectOn, .take]

theorem lifecycle_alternates_overtaken :
    ∃ s t, run (System.step .hyperliquid) {dispatcher := {limit := 8}} hyperliquidEvents = some s ∧
      lifecycleOf s.dispatcher.delivered = [.started 1, .recovered 1 8, .started 2] ∧
      Alternates (lifecycleOf s.dispatcher.delivered) ∧
      run (System.step .nado) {dispatcher := {limit := 8}} nadoEvents = some t ∧
      lifecycleOf t.dispatcher.delivered = [.started 1, .recovered 1 9] ∧
      Alternates (lifecycleOf t.dispatcher.delivered) :=
  ⟨_, _, rfl, rfl, @lifecycle_alternates ℕ ℕ _ .hyperliquid 8 hyperliquidEvents _ rfl, rfl, rfl,
    @lifecycle_alternates ℕ ℕ _ .nado 8 nadoEvents _ rfl⟩

end Scenario

end BolterTrader.CallbackDispatch
