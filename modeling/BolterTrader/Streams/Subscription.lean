import BolterTrader.Exchange.Errors
import BolterTrader.Streams.WsStream

/-! A typed subscription of the public websocket (`typedSubscription` in
`public_websocket.go`): three bounded streams for events, status and errors, a `closed`
flag the emitters check first, and a `Close` that announces itself on the status stream
before it closes the three streams one after the other. -/
namespace BolterTrader.TypedSubscription
open Exchange Foundations Foundations.Transition Foundations.Threads List Option

/-! ## The subscription -/

inductive SubscriptionState where
 | connecting | active | gap | resyncing | closed

inductive GapPhase where
 | unset | started | recovered

structure BackendStatus where
 state:SubscriptionState
 phase:GapPhase:=.unset
 generation:UInt64:=0
 reason:String:=""
 time:Option ℕ:=none

structure StreamStatusEvent where
 state:SubscriptionState
 phase:GapPhase
 venue:Venue
 product:Product
 streamId:String
 generation:UInt64
 reason:String
 time:ℕ

inductive Closing where
 | unregistering
 | announcing (call:ℕ)
 | events (call:ℕ)
 | status (call:ℕ)
 | errors (call:ℕ)
 | done

structure Subscription (τ ε:Type*) where
 id:String
 venue:Venue
 product:Product
 events:WsStream.Stream τ
 status:WsStream.Stream StreamStatusEvent
 errors:WsStream.Stream ε
 closed:Bool:=false
 close:Option Closing:=none
 failure:Option Closing:=none

inductive Event (τ ε:Type*) where
 | emit (event:τ)
 | emitStatus (status:BackendStatus) (now:ℕ)
 | emitError (err:ε)
 | close
 | closeFailed
 | proceed (now:ℕ)
 | proceedFailed
 | onEvents (event:WsStream.Event τ)
 | onStatus (event:WsStream.Event StreamStatusEvent)
 | onErrors (event:WsStream.Event ε)

def statusWebSocketBuffer:ℕ:=64
def errorWebSocketBuffer:ℕ:=16

variable {τ ε:Type*}

def newSubscription (id:String) (venue:Venue) (product:Product) (buffer statusBuffer errorBuffer:ℕ):
 Subscription τ ε:=
 { id,venue,product
   events:=WsStream.new buffer
   status:=WsStream.new statusBuffer
   errors:=WsStream.new errorBuffer}

def newTypedSubscription (id:String) (venue:Venue) (product:Product) (buffer:ℕ):Subscription τ ε:=
 newSubscription id venue product buffer statusWebSocketBuffer errorWebSocketBuffer

def Subscription.statusEvent (s:Subscription τ ε) (status:BackendStatus) (now:ℕ):StreamStatusEvent where
 state:=status.state
 phase:=status.phase
 venue:=s.venue
 product:=s.product
 streamId:=s.id
 generation:=status.generation
 reason:=status.reason
 time:=status.time.getD now

def Subscription.emitStatusUnchecked (s:Subscription τ ε) (status:BackendStatus) (now:ℕ):Subscription τ ε:=
 {s with status:=s.status.emit (s.statusEvent status now)}

def Subscription.closeEvents (s:Subscription τ ε):Subscription τ ε×Closing:=
 ({s with events:=s.events.close},.events s.events.closers.length)

def Subscription.closeStreams (s:Subscription τ ε):Closing→Option (Subscription τ ε×Closing)
 | .events call=>
  if s.events.closers[call]?=some .returned then
   some ({s with status:=s.status.close},.status s.status.closers.length)
  else none
 | .status call=>
  if s.status.closers[call]?=some .returned then
   some ({s with errors:=s.errors.close},.errors s.errors.closers.length)
  else none
 | .errors call=>if s.errors.closers[call]?=some .returned then some (s,.done) else none
 | .unregistering | .announcing _ | .done=>none

def Subscription.proceed (s:Subscription τ ε) (now:ℕ):Closing→Option (Subscription τ ε×Closing)
 | .unregistering=>
  some (s.emitStatusUnchecked {state:=.closed,time:=some now} now,.announcing s.status.emits.length)
 | .announcing call=>if s.status.emits[call]?.any fun e=>e.phase.isReturned then some s.closeEvents else none
 | phase=>s.closeStreams phase

def step (s:Subscription τ ε):Event τ ε→Option (Subscription τ ε)
 | .emit event=>some (if s.closed then s else {s with events:=s.events.emit event})
 | .emitStatus status now=>some (if s.closed then s else s.emitStatusUnchecked status now)
 | .emitError err=>some (if s.closed then s else {s with errors:=s.errors.emit err})
 | .close=>
  -- a further call waits for the body or returns at once
  some (if s.close=none then {s with closed:=true,close:=some .unregistering} else s)
 | .closeFailed=>
  if s.failure=none then
   some {s.closeEvents.1 with closed:=true,failure:=some s.closeEvents.2}
  else none
 | .proceed now=>s.close.bind fun phase=>(s.proceed now phase).map fun next=>{next.1 with close:=some next.2}
 | .proceedFailed=>
  s.failure.bind fun phase=>(s.closeStreams phase).map fun next=>{next.1 with failure:=some next.2}
 | .onEvents event=>
  if event.isCall then none else (WsStream.step s.events event).map fun events=>{s with events}
 | .onStatus event=>
  if event.isCall then none else (WsStream.step s.status event).map fun status=>{s with status}
 | .onErrors event=>
  if event.isCall then none else (WsStream.step s.errors event).map fun errors=>{s with errors}

def Event.internal:Event τ ε→Bool
 | .proceed _ | .proceedFailed=>true
 | .onEvents event=>event.internal
 | .onStatus event=>event.internal
 | .onErrors event=>event.internal
 | .emit _ | .emitStatus _ _ | .emitError _ | .close | .closeFailed=>false

/-! ## What every step keeps -/

def Closing.Made (s:Subscription τ ε):Closing→Prop
 | .announcing call=>call<s.status.emits.length
 | .events call=>call<s.events.closers.length
 | .status call=>call<s.status.closers.length
 | .errors call=>call<s.errors.closers.length
 | .unregistering | .done=>True

def Closing.Room (status:WsStream.Stream StreamStatusEvent):Closing→Prop
 | .unregistering=>status.closing=true∨status.load<status.capacity
 | .announcing _=>status.closing=true∨status.load≤ status.capacity
 | .events _ | .status _ | .errors _ | .done=>True

structure Subscription.Consistent (s:Subscription τ ε):Prop where
 events:s.events.Consistent
 status:s.status.Consistent
 errors:s.errors.Consistent
 marked:s.close≠none∨s.failure≠none→ s.closed=true
 made:∀ phase,s.close=some phase→ phase.Made s
 room:∀ phase,s.close=some phase→ phase.Room s.status

def RoomToClose (s:Subscription τ ε):Event τ ε→Prop
 | .close=>s.close=none→ s.status.closing=true∨s.status.load<s.status.capacity
 | _=>True

instance (s:Subscription τ ε):∀ event,Decidable (RoomToClose s event)
 | .close=>inferInstanceAs (Decidable (s.close=none→ s.status.closing=true∨s.status.load<s.status.capacity))
 | .emit _ | .emitStatus _ _ | .emitError _ | .closeFailed | .proceed _ | .proceedFailed | .onEvents _ | .onStatus _
 | .onErrors _=>.isTrue trivial

theorem consistent_new (id:String) (venue:Venue) (product:Product) (buffer statusBuffer errorBuffer:ℕ):
  (newSubscription id venue product buffer statusBuffer errorBuffer:Subscription τ ε).Consistent where
 events:=WsStream.consistent_new buffer
 status:=WsStream.consistent_new statusBuffer
 errors:=WsStream.consistent_new errorBuffer
 marked:=by simp[newSubscription]
 made:=by simp[newSubscription]
 room:=by simp[newSubscription]

theorem Closing.Room.followed {status status':WsStream.Stream StreamStatusEvent} {phase:Closing}
 (h:phase.Room status) (hst:status.Followed status'):phase.Room status':=by
 have hload:=hst.load
 have hcap:=hst.capacity
 cases phase with
 | unregistering | announcing call=>
  rcases h with hclo | hroom
  · exact .inl (hst.closing hclo)
  · exact .inr (by omega)
 | events | status | errors | done=>trivial

theorem Closing.Made.mono {s t:Subscription τ ε} {phase:Closing} (h:phase.Made s)
 (heve:s.events.closers.length≤t.events.closers.length)
 (hemi:s.status.emits.length≤t.status.emits.length)
 (hst:s.status.closers.length≤t.status.closers.length)
 (herr:s.errors.closers.length≤t.errors.closers.length):phase.Made t:=by
 cases phase with
 | unregistering | done=>trivial
 | announcing=>exact Nat.lt_of_lt_of_le h hemi
 | events=>exact Nat.lt_of_lt_of_le h heve
 | status=>exact Nat.lt_of_lt_of_le h hst
 | errors=>exact Nat.lt_of_lt_of_le h herr

namespace Subscription.Consistent

variable {s t:Subscription τ ε}

theorem frame (h:s.Consistent) (heve:t.events.Consistent) (hst:t.status.Consistent)
  (herr:t.errors.Consistent) (hevCl:s.events.closers.length≤t.events.closers.length)
  (hfol:s.status.Followed t.status) (herCl:s.errors.closers.length≤t.errors.closers.length)
  (hcls:t.close=s.close) (hmar:t.close≠none∨t.failure≠none→ t.closed=true):
  t.Consistent where
 events:=heve
 status:=hst
 errors:=herr
 marked:=hmar
 made:=fun phase hph=>(h.made phase (hcls▸hph)).mono hevCl hfol.emits hfol.closers herCl
 room:=fun phase hph=>(h.room phase (hcls▸hph)).followed hfol

theorem emit (h:s.Consistent) (event:τ):{s with events:=s.events.emit event}.Consistent:=
 h.frame (h.events.emit event) h.status h.errors (Nat.le_refl _) (.refl _) (Nat.le_refl _) rfl h.marked

theorem emitError (h:s.Consistent) (err:ε):{s with errors:=s.errors.emit err}.Consistent:=
 h.frame h.events h.status (h.errors.emit err) (Nat.le_refl _) (.refl _) (Nat.le_refl _) rfl h.marked

theorem emitStatus (h:s.Consistent) (hopen:s.closed=false) (status:BackendStatus) (now:ℕ):
 (s.emitStatusUnchecked status now).Consistent:=by
 have hcls:s.close=none:=by
  by_contra hne
  have:=h.marked (.inl hne)
  rw[hopen] at this
  cases this
 exact
  { events:=h.events
    status:=h.status.emit _
    errors:=h.errors
    marked:=h.marked
    made:=fun phase hph=>nomatch hcls.symm.trans hph
    room:=fun phase hph=>nomatch hcls.symm.trans hph}

theorem close (h:s.Consistent) (hroom:s.status.closing=true∨s.status.load<s.status.capacity):
 {s with closed:=true,close:=some .unregistering}.Consistent:=
 {h with
   marked:=fun _=>rfl
   made:=by
    intro phase hph
    cases hph
    trivial
   room:=by
    intro phase hph
    cases hph
    exact hroom}

theorem closeFailed (h:s.Consistent):
 {s.closeEvents.1 with closed:=true,failure:=some s.closeEvents.2}.Consistent:=
 h.frame h.events.close h.status h.errors (WsStream.followed_close _).closers (.refl _) (Nat.le_refl _) rfl
  fun _=>rfl

theorem closeStreams (h:s.Consistent) {phase next:Closing} (hnext:s.closeStreams phase=some (t,next)):
 t.Consistent∧next.Made t∧next.Room t.status∧t.close=s.close∧t.failure=s.failure∧
  t.closed=s.closed:=by
 cases phase with
 | unregistering | announcing | done=>cases hnext
 | events=>
  obtain ⟨-,heq⟩:=ite_none_right_eq_some.mp hnext
  cases heq
  refine ⟨?_,?_,trivial,rfl,rfl,rfl⟩
  · exact h.frame h.events h.status.close h.errors (Nat.le_refl _) (WsStream.followed_close _) (Nat.le_refl _) rfl
     h.marked
  · simp[Closing.Made,WsStream.Stream.close]
 | status=>
  obtain ⟨-,heq⟩:=ite_none_right_eq_some.mp hnext
  cases heq
  refine ⟨?_,?_,trivial,rfl,rfl,rfl⟩
  · exact h.frame h.events h.status h.errors.close (Nat.le_refl _) (.refl _) (WsStream.followed_close _).closers rfl
     h.marked
  · simp[Closing.Made,WsStream.Stream.close]
 | errors=>
  obtain ⟨-,heq⟩:=ite_none_right_eq_some.mp hnext
  cases heq
  exact ⟨h,trivial,trivial,rfl,rfl,rfl⟩

theorem moved {next:Closing} (h:t.Consistent) (hmade:next.Made t) (hroom:next.Room t.status)
 (hcl:t.closed=true):{t with close:=some next}.Consistent:=
 {h with
   marked:=fun _=>hcl
   made:=by
    intro phase hph
    cases hph
    exact hmade.mono (Nat.le_refl _) (Nat.le_refl _) (Nat.le_refl _) (Nat.le_refl _)
   room:=by
    intro phase hph
    cases hph
    exact hroom}

theorem announce (h:s.Consistent) (hcls:s.close=some .unregistering) (now:ℕ):
 {s.emitStatusUnchecked {state:=.closed,time:=some now} now with
   close:=some (.announcing s.status.emits.length)}.Consistent:=
 {h with
   status:=h.status.emit _
   marked:=fun _=>h.marked (.inl (by rw[hcls]; simp))
   made:=by
    intro phase hph
    cases hph
    simp[Closing.Made,Subscription.emitStatusUnchecked,WsStream.Stream.emit]
   room:=by
    intro phase hph
    cases hph
    rcases h.room _ hcls with hclo | hroom
    · exact .inl hclo
    · refine .inr ?_
      rw[Subscription.emitStatusUnchecked,WsStream.load_emit]
      exact hroom}

theorem step (h:s.Consistent) {event:Event τ ε} (hok:RoomToClose s event) (hstep:step s event=some t):
 t.Consistent:=by
 cases event with
 | emit event=>
  cases hstep
  split
  · exact h
  · exact h.emit event
 | emitStatus status now=>
  cases hstep
  split
  · exact h
  · next hopen=>exact h.emitStatus (by simpa using hopen) status now
 | emitError err=>
  cases hstep
  split
  · exact h
  · exact h.emitError err
 | close=>
  cases hstep
  split
  · next hcls=>exact h.close (hok hcls)
  · exact h
 | closeFailed=>
  obtain ⟨-,heq⟩:=ite_none_right_eq_some.mp hstep
  cases heq
  exact h.closeFailed
 | proceed now=>
  obtain ⟨phase,hcls,hpro⟩:=bind_eq_some_iff.mp hstep
  obtain ⟨⟨u,next⟩,hnext,rfl⟩:=map_eq_some_iff.mp hpro
  have hcl:s.closed=true:=h.marked (.inl (by rw[hcls]; simp))
  have hss:s.closeStreams phase=some (u,next) → {u with close:=some next}.Consistent:=by
   intro hss
   obtain ⟨hu,hmade,hroom,-,-,hsame⟩:=h.closeStreams hss
   exact hu.moved hmade hroom (hsame▸hcl)
  cases phase with
  | unregistering=>
   cases hnext
   exact h.announce hcls now
  | announcing=>
   obtain ⟨-,heq⟩:=ite_none_right_eq_some.mp hnext
   cases heq
   have heve: {s with events:=s.events.close}.Consistent:=
    h.frame h.events.close h.status h.errors (WsStream.followed_close _).closers (.refl _) (Nat.le_refl _) rfl
     h.marked
   exact heve.moved (by simp[Closing.Made,WsStream.Stream.close]) trivial hcl
  | events | status | errors | done=>exact hss hnext
 | proceedFailed=>
  obtain ⟨phase,hfai,hpro⟩:=bind_eq_some_iff.mp hstep
  obtain ⟨⟨u,next⟩,hnext,rfl⟩:=map_eq_some_iff.mp hpro
  obtain ⟨hu,-,-,-,-,hsame⟩:=h.closeStreams hnext
  have hcl:u.closed=true:=hsame▸h.marked (.inr (by rw[hfai]; simp))
  exact hu.frame hu.events hu.status hu.errors (Nat.le_refl _) (.refl _) (Nat.le_refl _) rfl fun _=>hcl
 | onEvents=>
  obtain ⟨hcall,hmap⟩:=ite_none_left_eq_some.mp hstep
  obtain ⟨events,heve,rfl⟩:=map_eq_some_iff.mp hmap
  have hfol:=WsStream.followed_of_step (by simpa using hcall) heve
  exact h.frame (h.events.step heve) h.status h.errors hfol.closers (.refl _) (Nat.le_refl _) rfl h.marked
 | onStatus=>
  obtain ⟨hcall,hmap⟩:=ite_none_left_eq_some.mp hstep
  obtain ⟨status,hst,rfl⟩:=map_eq_some_iff.mp hmap
  have hfol:=WsStream.followed_of_step (by simpa using hcall) hst
  exact h.frame h.events (h.status.step hst) h.errors (Nat.le_refl _) hfol (Nat.le_refl _) rfl h.marked
 | onErrors=>
  obtain ⟨hcall,hmap⟩:=ite_none_left_eq_some.mp hstep
  obtain ⟨errors,herr,rfl⟩:=map_eq_some_iff.mp hmap
  have hfol:=WsStream.followed_of_step (by simpa using hcall) herr
  exact h.frame h.events h.status (h.errors.step herr) (Nat.le_refl _) (.refl _) hfol.closers rfl h.marked

end Subscription.Consistent

/-! ## Close finishes where the closing status has room -/

def Closing.remaining:Closing→ℕ
 | .unregistering=>17
 | .announcing _=>13
 | .events _=>9
 | .status _=>5
 | .errors _=>1
 | .done=>0

def Subscription.remaining (s:Subscription τ ε):ℕ:=
 s.events.remaining+s.status.remaining+s.errors.remaining+s.close.elim 0 Closing.remaining

section Progress

variable {s:Subscription τ ε}

def Subscription.Moves (s:Subscription τ ε):Prop:=
 ∃ event t,event.internal=true∧step s event=some t∧RoomToClose s event∧t.remaining<s.remaining

theorem moves_of_events {event:WsStream.Event τ} {events:WsStream.Stream τ} (hint:event.internal=true)
 (hstep:WsStream.step s.events event=some events):s.Moves:=by
 have hless:=WsStream.step_remaining hint hstep
 refine ⟨.onEvents event,{s with events},hint,?_,trivial,?_⟩
 · simp[step,WsStream.isCall_of_internal hint,hstep]
 · simp only[Subscription.remaining]
   omega

theorem moves_of_status {event:WsStream.Event StreamStatusEvent} {status:WsStream.Stream StreamStatusEvent}
 (hint:event.internal=true) (hstep:WsStream.step s.status event=some status):s.Moves:=by
 have hless:=WsStream.step_remaining hint hstep
 refine ⟨.onStatus event,{s with status},hint,?_,trivial,?_⟩
 · simp[step,WsStream.isCall_of_internal hint,hstep]
 · simp only[Subscription.remaining]
   omega

theorem moves_of_errors {event:WsStream.Event ε} {errors:WsStream.Stream ε} (hint:event.internal=true)
 (hstep:WsStream.step s.errors event=some errors):s.Moves:=by
 have hless:=WsStream.step_remaining hint hstep
 refine ⟨.onErrors event,{s with errors},hint,?_,trivial,?_⟩
 · simp[step,WsStream.isCall_of_internal hint,hstep]
 · simp only[Subscription.remaining]
   omega

theorem moves_of_proceed {phase next:Closing} {t:Subscription τ ε} (hcls:s.close=some phase)
 (hnext:s.proceed 0 phase=some (t,next)) (hless:{t with close:=some next}.remaining<s.remaining):
 s.Moves:=
 ⟨.proceed 0,{t with close:=some next},rfl,by simp[step,hcls,hnext],trivial,hless⟩

theorem announcement_moves (h:s.Consistent) {call:ℕ} (hcls:s.close=some (.announcing call)):s.Moves:=by
 have hmade:call<s.status.emits.length:=h.made _ hcls
 have hemit:s.status.emits[call]?=some s.status.emits[call]:=List.getElem?_eq_getElem hmade
 cases hret : s.status.emits[call].phase.isReturned with
 | false=>
  obtain ⟨event,status,hint,hstep⟩:=WsStream.emit_moves hemit hret fun hsen=>by
   rcases h.room _ hcls with hclo | hload
   · exact .inr (h.status.signal.trans hclo)
   · exact .inl (WsStream.free_of_load hemit (by rw[hsen]; rfl) hload)
  exact moves_of_status hint hstep
 | true=>
  refine moves_of_proceed hcls (by simp only[Subscription.proceed,hemit,any_some,hret]; rfl) ?_
  grind [Subscription.remaining,WsStream.remaining_close,Closing.remaining]

theorem close_kept {t:Subscription τ ε} {event:Event τ ε} (hstep:step s event=some t)
 (hcls:s.close≠none):t.close≠none:=by
 cases event with
 | emit | emitStatus | emitError | close=>
  cases hstep
  split
  · first | exact hcls | simp
  · exact hcls
 | closeFailed=>
  obtain ⟨-,heq⟩:=ite_none_right_eq_some.mp hstep
  cases heq
  exact hcls
 | proceed=>
  obtain ⟨phase,-,hpro⟩:=bind_eq_some_iff.mp hstep
  obtain ⟨next,-,rfl⟩:=map_eq_some_iff.mp hpro
  simp
 | proceedFailed=>
  obtain ⟨phase,-,hpro⟩:=bind_eq_some_iff.mp hstep
  obtain ⟨⟨u,next⟩,hnext,rfl⟩:=map_eq_some_iff.mp hpro
  cases phase with
  | unregistering | announcing | done=>cases hnext
  | events | status | errors=>
   obtain ⟨-,heq⟩:=ite_none_right_eq_some.mp hnext
   cases heq
   exact hcls
 | onEvents | onStatus | onErrors=>
  obtain ⟨-,hmap⟩:=ite_none_left_eq_some.mp hstep
  obtain ⟨stream,-,rfl⟩:=map_eq_some_iff.mp hmap
  exact hcls

theorem close_moves (h:s.Consistent) {phase:Closing} (hcls:s.close=some phase) (hopen:phase≠.done):
 s.Moves:=by
 cases phase with
 | done=>exact absurd rfl hopen
 | unregistering=>
  refine moves_of_proceed hcls rfl ?_
  grind [Subscription.remaining,Subscription.emitStatusUnchecked,WsStream.remaining_emit,Closing.remaining]
 | announcing=>exact announcement_moves h hcls
 | events call=>
  rcases WsStream.returned_or_moves h.events (h.made _ hcls) with hret | ⟨event,events,hint,hstep⟩
  · refine moves_of_proceed hcls (by simp only[Subscription.proceed,Subscription.closeStreams,hret]; rfl) ?_
    grind [Subscription.remaining,WsStream.remaining_close,Closing.remaining]
  · exact moves_of_events hint hstep
 | status call=>
  rcases WsStream.returned_or_moves h.status (h.made _ hcls) with hret | ⟨event,status,hint,hstep⟩
  · refine moves_of_proceed hcls (by simp only[Subscription.proceed,Subscription.closeStreams,hret]; rfl) ?_
    grind [Subscription.remaining,WsStream.remaining_close,Closing.remaining]
  · exact moves_of_status hint hstep
 | errors call=>
  rcases WsStream.returned_or_moves h.errors (h.made _ hcls) with hret | ⟨event,errors,hint,hstep⟩
  · refine moves_of_proceed hcls (by simp only[Subscription.proceed,Subscription.closeStreams,hret]; rfl) ?_
    grind [Subscription.remaining,Closing.remaining]
  · exact moves_of_errors hint hstep

end Progress

/-- The close can end by steps of the subscription alone, without a reader. -/
def Subscription.CanFinish (s:Subscription τ ε):Prop:=
 ∃ events t,(∀ event∈events,Event.internal event=true)∧run step s events=some t∧t.close=some .done

theorem Subscription.Consistent.canFinish {s:Subscription τ ε} (h:s.Consistent) (hcls:s.close≠none):
 s.CanFinish:=by
 obtain ⟨events,t,hint,hrun,-,hdone⟩:=
  exists_run_of_progress (fun s:Subscription τ ε=>s.Consistent∧s.close≠none)
   (fun s=>s.close=some .done) (fun event=>Event.internal event=true) Subscription.remaining
   (fun s hs hopen=>by
    obtain ⟨phase,hph⟩:=ne_none_iff_exists'.mp hs.2
    obtain ⟨event,t,hint,hstep,hok,hless⟩:=close_moves hs.1 hph (fun heq=>hopen (by rw[hph,heq]))
    exact ⟨event,t,hint,hstep,⟨hs.1.step hok hstep,close_kept hstep hs.2⟩,hless⟩)
   ⟨h,hcls⟩
 exact ⟨events,t,hint,hrun,hdone⟩

/-- A close ends without a reader when the status queue has room. -/
theorem close_finishes_of_room {id:String} {venue:Venue} {product:Product} {buffer statusBuffer errorBuffer:ℕ}
 {events:List (Event τ ε)} {s:Subscription τ ε}
 (hroom:Along step RoomToClose (newSubscription id venue product buffer statusBuffer errorBuffer) events)
 (hrun:run step (newSubscription id venue product buffer statusBuffer errorBuffer) events=some s)
 {phase:Closing} (hclose:s.close=some phase):s.CanFinish:=by
 have h:s.Consistent:=
  invariant_along Subscription.Consistent (fun _ _ _ h hok hstep=>h.step hok hstep)
   (consistent_new id venue product buffer statusBuffer errorBuffer) hroom hrun
 exact h.canFinish (by rw[hclose]; simp)

def closedAfterConnecting:List (Event ℕ String):=
 [.emitStatus {state:=.connecting} 1,.onStatus (.enter 0),.onStatus (.send 0),.emit 7,.onStatus (.leave 0),
  .close]

theorem close_finishes_of_room_connecting :
 ∃ s,run step (newTypedSubscription "order-book-1" .binance .perp 1024) closedAfterConnecting=some s∧
  s.close=some .unregistering∧s.CanFinish:=by
 have hroom:Along step RoomToClose
  (newSubscription "order-book-1" .binance .perp 1024 statusWebSocketBuffer errorWebSocketBuffer)
  closedAfterConnecting:=by decide
 exact ⟨_,rfl,rfl,close_finishes_of_room hroom rfl rfl⟩

/-! ## Close waits for the consumer where it has not -/

structure Subscription.Blocked (s:Subscription τ ε):Prop where
 stalled:s.status.Stalled
 failure:s.failure=none
 waits:s.close=some .unregistering∨∃ (call:ℕ) (e:WsStream.Emit StreamStatusEvent),
  s.close=some (.announcing call)∧s.status.emits[call]?=some e∧e.phase.pending=true

theorem Subscription.Blocked.step {s t:Subscription τ ε} (h:s.Blocked) {event:Event τ ε}
 (hint:event.internal=true) (hstep:step s event=some t):t.Blocked:=by
 cases event with
 | emit | emitStatus | emitError | close | closeFailed=>cases hint
 | proceedFailed=>
  simp only[TypedSubscription.step,h.failure] at hstep
  cases hstep
 | proceed=>
  obtain ⟨phase,hcls,hpro⟩:=bind_eq_some_iff.mp hstep
  obtain ⟨⟨u,next⟩,hnext,rfl⟩:=map_eq_some_iff.mp hpro
  rcases h.waits with hbeg | ⟨call,e,hann,hemit,hpd⟩
  · cases hbeg.symm.trans hcls
    cases hnext
    refine ⟨⟨h.stalled.full,h.stalled.signal,h.stalled.shut,h.stalled.closes,h.stalled.closers⟩,h.failure,?_⟩
    exact .inr ⟨_,_,rfl,List.getElem?_concat_length,rfl⟩
  · -- its `Emit` has not returned
    cases hann.symm.trans hcls
    obtain ⟨hret,-⟩:=ite_none_right_eq_some.mp hnext
    rw[hemit,any_some] at hret
    cases hph : e.phase with
    | entering | sending=>
     rw[hph] at hret
     cases hret
    | leaving | returned=>
     rw[hph] at hpd
     cases hpd
 | onEvents event | onErrors event=>
  obtain ⟨-,hmap⟩:=ite_none_left_eq_some.mp hstep
  obtain ⟨stream,-,rfl⟩:=map_eq_some_iff.mp hmap
  exact ⟨h.stalled,h.failure,h.waits⟩
 | onStatus=>
  obtain ⟨-,hmap⟩:=ite_none_left_eq_some.mp hstep
  obtain ⟨status,hst,rfl⟩:=map_eq_some_iff.mp hmap
  obtain ⟨hsta,hkeep⟩:=h.stalled.step hint hst
  refine ⟨hsta,h.failure,h.waits.imp_right ?_⟩
  grind

theorem Subscription.Blocked.not_canFinish {s:Subscription τ ε} (h:s.Blocked):¬s.CanFinish:=by
 rintro ⟨events,t,hint,hrun,hdone⟩
 have ht:t.Blocked:=
  invariant_along Subscription.Blocked (fun _ _ _ h hok hstep=>h.step hok hstep) h
   (along_of_forall hint s) hrun
 rcases ht.waits with hbeg | ⟨call,e,hann,-⟩
 all_goals grind

theorem run_onStatus (s:Subscription τ ε) {events:List (WsStream.Event StreamStatusEvent)}
 (hcal:∀ event∈events,event.isCall=false):
 run step s (events.map .onStatus)=(run WsStream.step s.status events).map fun status=>{s with status}:=by
 induction events generalizing s with
 | nil=>rfl
 | cons event rest ih=>
  have hcall:=hcal event mem_cons_self
  have hrest:=fun e he=>hcal e (mem_cons_of_mem event he)
  simp only[map_cons,run,step,hcall,Bool.false_eq_true,if_false]
  grind

def unreadStatuses (n:ℕ):List (Event τ ε):=
 (List.range n).flatMap fun call=>
  .emitStatus {state:=.active} call::[.enter call,.send call,.leave call].map .onStatus

structure Subscription.Unread (n:ℕ) (s:Subscription τ ε):Prop where
 watched:s.closed=false∧s.close=none∧s.failure=none
 stream:s.status.closing=false∧s.status.done=false∧s.status.closes=0∧s.status.closers=[]
 calls:s.status.emits.length=n
 queue:s.status.queue.length=n

theorem run_unreadStatuses (id:String) (venue:Venue) (product:Product)
 {buffer statusBuffer errorBuffer n:ℕ} (hn:n≤ statusBuffer):
 ∃ s:Subscription τ ε,s.Unread n∧s.status.capacity=statusBuffer∧
  run step (newSubscription id venue product buffer statusBuffer errorBuffer) (unreadStatuses n)=some s:=by
 induction n with
 | zero=>exact ⟨_,⟨⟨rfl,rfl,rfl⟩,⟨rfl,rfl,rfl,rfl⟩,rfl,rfl⟩,rfl,rfl⟩
 | succ n ih=>
  obtain ⟨s,hs,hcap,hrun⟩:=ih (Nat.le_of_succ_le hn)
  obtain ⟨hcl,hcls,hfai⟩:=hs.watched
  obtain ⟨hopen,hdone,hclo,hclos⟩:=hs.stream
  have hroom:s.status.queue.length<s.status.capacity:=by
   rw[hs.queue,hcap]
   omega
  have hemit:=WsStream.run_emit s.status (s.statusEvent {state:=.active} n) hopen hroom
  rw[hs.calls] at hemit
  have hcal:∀ event∈[WsStream.Event.enter n,.send n,.leave n],
   (event:WsStream.Event StreamStatusEvent).isCall=false:=by simp[WsStream.Event.isCall]
  have hlast:run step (s.emitStatusUnchecked {state:=.active} n)
    ([.enter n,.send n,.leave n].map .onStatus) =
     some {s with status:=s.status.delivered (s.statusEvent {state:=.active} n)}:=
   (run_onStatus _ hcal).trans (congrArg (Option.map _) hemit)
  refine ⟨{s with status:=s.status.delivered (s.statusEvent {state:=.active} n)},
   ⟨⟨hcl,hcls,hfai⟩,⟨hopen,hdone,hclo,hclos⟩,?_,?_⟩,hcap,?_⟩
  · simp[WsStream.Stream.delivered,hs.calls]
  · simp[WsStream.Stream.delivered,hs.queue]
  · rw[unreadStatuses,range_succ,flatMap_append,run_append_eq_some]
    refine ⟨s,hrun,?_⟩
    rw[flatMap_singleton,run_cons_eq_some]
    exact ⟨s.emitStatusUnchecked {state:=.active} n,by simp[step,hcl],hlast⟩

theorem close_blocks_of_unread (id:String) (venue:Venue) (product:Product)
 (buffer statusBuffer errorBuffer:ℕ):
 ∃ s:Subscription τ ε,
  run step (newSubscription id venue product buffer statusBuffer errorBuffer)
   (unreadStatuses statusBuffer++[.close])=some s∧
  s.close=some .unregistering∧¬s.CanFinish:=by
 obtain ⟨s,hs,hcap,hrun⟩:=run_unreadStatuses (τ:=τ) (ε:=ε) id venue product (Nat.le_refl statusBuffer)
 obtain ⟨hopen,hdone,hclo,hclos⟩:=hs.stream
 refine ⟨{s with closed:=true,close:=some .unregistering},?_,rfl,?_⟩
 · refine run_append_eq_some.mpr ⟨s,hrun,?_⟩
   simp[run,step,hs.watched.2.1]
 · refine Subscription.Blocked.not_canFinish ⟨⟨?_,hdone,hopen,hclo,hclos⟩,hs.watched.2.2,.inl rfl⟩
   exact Nat.le_of_eq (by rw[hs.queue,hcap])

theorem close_waits_for_consumer :
 ∃ s:Subscription ℕ String,
  run step (newTypedSubscription "order-book-1" .binance .perp 1024)
   (unreadStatuses statusWebSocketBuffer++[.close])=some s∧
  s.close=some .unregistering∧¬s.CanFinish:=
 close_blocks_of_unread "order-book-1" .binance .perp 1024 statusWebSocketBuffer errorWebSocketBuffer

end BolterTrader.TypedSubscription
