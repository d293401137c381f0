import BolterTrader.Foundations.Threads
import BolterTrader.Gateway.RateLimit
import BolterTrader.Gateway.RequestPolicy

/-! The round trips of requests under the gateway's budgets
(`gateway/ratelimit/transport.go`). -/
namespace BolterTrader.RateTransport
open Foundations Threads Transition RateLimit RequestPolicy List Option

def localUnitsPerMinute:String→Option Int64
 | "binance" | "aster" | "bybit" | "hyperliquid" => some 1200
 | "bitget" | "okx" | "gate" => some 600
 | "lighter" | "nado" => some 300
 | _=>none

def second:Int:=10^9
def minute:Int:=60*second

structure Call where
 request:Request
 principal:String:=""
 deriving DecidableEq

def Call.policy (call:Call):HTTPPolicy:=policyForRequest call.request
def venueKey (venue:String):Key:={kind:=.venue,value:=venue ++ "/egress" }

def Call.endpointKey (call:Call):Key:=
 let scope:=if call.principal="" then call.policy.venue else call.policy.venue ++ "/" ++ call.principal
 {kind:=.endpoint,value:=scope ++ "/" ++ call.policy.endpoint}

def reserve (limit:Int64) (action:Action):Int64:=if action=.cancel then 0 else limit/5

def endpointLimit (policy:HTTPPolicy):Int64:=
 if policy.venue="nado"∨policy.venue="lighter" then 5
 else if policy.venue="bybit" then
  match policy.endpoint with
  | "POST /v5/order/cancel-all" => 1
  | "GET /v5/account/fee-rate" | "POST /v5/account/set-margin-mode" => 5
  | _=>10
 else 10

def Call.charges (call:Call) (limit:Int64):List Charge:=
 [{key:=venueKey call.policy.venue,cost:=Int64.ofNat call.policy.cost,reserve:=reserve limit call.policy.action},
   {key:=call.endpointKey,cost:=1}]

def Call.limit? (call:Call):Option Int64:=
 if call.policy.endpoint=""∨call.policy.cost=0 then none else localUnitsPerMinute call.policy.venue

/-! ## Answers -/

structure Response where
 status:Int
 retryAfter:String:=""
 limitStatus:String:=""
 limitReset:String:=""
 deriving DecidableEq

def retryAfter (parseTime:String→Option Int) (header:String) (now:Int):Int:=
 let value:=GoText.trimSpace header
 match Decimal.parseInt64? value with
 | some seconds=>if seconds≤0 then 0 else if maxDuration/second<seconds then maxDuration else seconds*second
 | none=>
  match parseTime value with
  | some limit=>if now<limit then sub limit now else 0
  | none=>0

def Response.refuses (response:Response):Bool:=response.status=429 || response.status=418
def cooldown (delay:Int):Int:=if delay≤0 then second else delay

def endpointReset (call:Call) (response:Response):Option Int:=
 if call.policy.venue="bybit"∧response.limitStatus="0" then
  (Decimal.parseInt64? response.limitReset).map fun millis=>millis*10^6
 else none

/-! ## Round trips -/

inductive Refusal where
 | noPolicy
 | budget
 | ended
 | limited (delay:Int) (action:Action)
 deriving DecidableEq

inductive Stage where
 | begun
 | venueReady
 | endpointReady
 | sent
 | answered (response:Response)
 | refusedBy (response:Response) (delay:Int)
 | stamped (response:Response) (delay time:Int)
 | recorded (response:Response)
 | returned
 | refused (refusal:Refusal)
 deriving DecidableEq

structure Flight where
 call:Call
 stage:Stage:=.begun
 deriving DecidableEq

inductive Entry where
 | admitted (venue:String) (time:Int)
 | cooled (venue:String) (time delay:Int)
 deriving DecidableEq

structure Transport where
 session:Session
 flights:List Flight:=[]
 log:List Entry:=[]

inductive Event where
 | start (call:Call)
 | configureVenue (i:ℕ) (now:Int)
 | configureEndpoint (i:ℕ) (now:Int)
 | acquire (i:ℕ) (ended:Bool) (now:Int)
 | respond (i:ℕ) (response:Option Response)
 | readDelay (i:ℕ) (now:Int)
 | stamp (i:ℕ) (now:Int)
 | block (i:ℕ)
 | finish (i:ℕ)

def Transport.setStage (t:Transport) (i:ℕ) (flight:Flight) (stage:Stage):Transport:=
 {t with flights:=t.flights.set i {flight with stage}}

def Transport.tick (t:Transport) (now:Int):Option Transport:=
 if t.session.clock≤now then some {t with session:={t.session with clock:=now}} else none

def Transport.call (t:Transport) (event:RateLimit.Event):Option Transport:=
 (RateLimit.step t.session event).map fun session=>{t with session}

def Transport.configure (t:Transport) (i:ℕ) (flight:Flight) (key:Key) (quota:Quota) (now:Int) (stage:Stage):
 Option Transport:=
 let stage:=if (t.session.coordinator.configure key quota now).isSome then stage else .refused .budget
 (t.call (.configure key quota now)).map fun t=>t.setStage i flight stage

def Transport.configureVenue (t:Transport) (i:ℕ) (flight:Flight) (now:Int):Option Transport:=
 match flight.call.limit? with
 | none=>some (t.setStage i flight (.refused .noPolicy))
 | some limit=>
  t.configure i flight (venueKey flight.call.policy.venue) {limit,interval:=minute} now .venueReady

def acquiredStage (call:Call):Outcome→Stage
 | .admitted=>.sent
 | .delayed delay=>.refused (.limited delay call.policy.action)
 | .invalid=>.refused .budget
 | .ended=>.refused .ended

def Transport.acquire (t:Transport) (i:ℕ) (flight:Flight) (limit:Int64) (ended:Bool) (now:Int):
 Option Transport:=
 let outcome:=(t.session.coordinator.tryAcquire ended (flight.call.charges limit) now).2
 let entries:=if outcome=.admitted then [Entry.admitted flight.call.policy.venue now] else []
 (t.call (.acquire ended (flight.call.charges limit) now)).map fun t=>
  {t.setStage i flight (acquiredStage flight.call outcome) with log:=t.log++entries}

def Transport.record (t:Transport) (i:ℕ) (flight:Flight) (response:Response) (delay time:Int):
 Option Transport:=
 (t.call (.block (venueKey flight.call.policy.venue) (time+cooldown delay))).map fun t=>
  {t.setStage i flight (.recorded response) with
    log:=t.log++[.cooled flight.call.policy.venue time delay]}

def Transport.finish (t:Transport) (i:ℕ) (flight:Flight) (response:Response):Option Transport:=
 match endpointReset flight.call response with
 | some limit=>(t.call (.block flight.call.endpointKey limit)).map fun t=>t.setStage i flight .returned
 | none=>some (t.setStage i flight .returned)

def Transport.flight (t:Transport) (i:ℕ) (move:Flight→Option Transport):Option Transport:=
 t.flights[i]?.bind move

def step (parseTime:String→Option Int) (t:Transport):Event→Option Transport
 | .start call=>some {t with flights:=t.flights++[{call}]}
 | .configureVenue i now=>
  t.flight i fun flight=>if flight.stage=.begun then t.configureVenue i flight now else none
 | .configureEndpoint i now=>
  t.flight i fun flight=>
   if flight.stage=.venueReady then
    t.configure i flight flight.call.endpointKey {limit:=endpointLimit flight.call.policy,interval:=second} now
     .endpointReady
   else none
 | .acquire i ended now=>
  t.flight i fun flight=>
   if flight.stage=.endpointReady then
    flight.call.limit?.bind fun limit=>t.acquire i flight limit ended now
   else none
 | .respond i response=>
  t.flight i fun flight=>
   if flight.stage=.sent then some (t.setStage i flight ((response.map Stage.answered).getD .returned)) else none
 | .readDelay i now=>
  t.flight i fun flight=>
   match flight.stage with
   | .answered response=>
    let stage:=if response.refuses then .refusedBy response (retryAfter parseTime response.retryAfter now)
     else .recorded response
    (t.tick now).map fun t=>t.setStage i flight stage
   | _=>none
 | .stamp i now=>
  t.flight i fun flight=>
   match flight.stage with
   | .refusedBy response delay=>(t.tick now).map fun t=>t.setStage i flight (.stamped response delay now)
   | _=>none
 | .block i=>
  t.flight i fun flight=>
   match flight.stage with
   | .stamped response delay time=>t.record i flight response delay time
   | _=>none
 | .finish i=>
  t.flight i fun flight=>
   match flight.stage with
   | .recorded response=>t.finish i flight response
   | _=>none

/-! ## What a step does -/

inductive Issues (call:Call):RateLimit.Event→Prop
 | venue {limit:Int64} (hlimit:call.limit?=some limit) (now:Int):
  Issues call (.configure (venueKey call.policy.venue) {limit,interval:=minute} now)
 | endpoint (now:Int):
  Issues call (.configure call.endpointKey {limit:=endpointLimit call.policy,interval:=second} now)
 | acquire {limit:Int64} (hlimit:call.limit?=some limit) (ended:Bool) (now:Int):
  Issues call (.acquire ended (call.charges limit) now)
 | block (key:Key) (limit:Int):Issues call (.block key limit)

inductive Asks (call:Call) (s:Session):Session→Prop
 | same : Asks call s s
 | tick {now:Int} (hclock:s.clock≤now):Asks call s {s with clock:=now}
 | event {e:RateLimit.Event} {next:Session} (hissues:Issues call e) (hstep:RateLimit.step s e=some next):
  Asks call s next

def Stage.Past:Stage→Prop
 | .sent | .answered _ | .refusedBy .. | .stamped .. | .recorded _=>True
 | _=>False

inductive Moves (t:Transport):Event→Transport→Prop
 | started (call:Call):Moves t (.start call) {t with flights:=t.flights++[{call}]}
 | quiet {e:Event} {i:ℕ} {flight:Flight} {session:Session} (hflight:t.flights[i]?=some flight)
  (hasks:Asks flight.call t.session session) (stage:Stage) (hpast:stage.Past→ flight.stage.Past):
  Moves t e {t with session,flights:=t.flights.set i {flight with stage}}
 | admitted {e:Event} {i:ℕ} {flight:Flight} {session:Session} {limit:Int64} {ended:Bool} {now:Int}
  (hflight:t.flights[i]?=some flight) (hlimit:flight.call.limit?=some limit)
  (hout:(t.session.coordinator.tryAcquire ended (flight.call.charges limit) now).2=.admitted)
  (hstep:RateLimit.step t.session (.acquire ended (flight.call.charges limit) now)=some session):
  Moves t e { session,flights:=t.flights.set i {flight with stage:=.sent},
              log:=t.log++[.admitted flight.call.policy.venue now]}
 | cooled {e:Event} {i:ℕ} {flight:Flight} {session:Session} {response:Response} {delay time:Int}
  (hflight:t.flights[i]?=some flight) (hstage:flight.stage=.stamped response delay time)
  (hstep:RateLimit.step t.session (.block (venueKey flight.call.policy.venue) (time+cooldown delay)) =
   some session):
  Moves t e { session,flights:=t.flights.set i {flight with stage:=.recorded response},
              log:=t.log++[.cooled flight.call.policy.venue time delay]}

section
variable {parseTime:String→Option Int} {t t':Transport} {e:Event} {i:ℕ} {flight:Flight} {now:Int}

theorem call_eq_some {event:RateLimit.Event} (h:t.call event=some t'):
 ∃ session,RateLimit.step t.session event=some session∧t' = {t with session}:=by
 obtain ⟨session,hstep,heq⟩:=map_eq_some_iff.mp h
 grind

theorem moves_configure {key:Key} {quota:Quota} {stage:Stage} (hfl:t.flights[i]?=some flight)
 (hiss:Issues flight.call (.configure key quota now))
 (h:t.configure i flight key quota now stage=some t') (hsg:¬stage.Past):Moves t e t':=by
 obtain ⟨called,hcall,heq⟩:=map_eq_some_iff.mp h
 obtain ⟨session,hstep,rfl⟩:=call_eq_some hcall
 subst heq
 apply Moves.quiet hfl (.event hiss hstep)
 intro hpast
 split at hpast
 · exact absurd hpast hsg
 · exact hpast.elim

theorem moves_acquire {limit:Int64} {ended:Bool} (hfl:t.flights[i]?=some flight)
 (hlimit:flight.call.limit?=some limit) (h:t.acquire i flight limit ended now=some t'):Moves t e t':=by
 obtain ⟨called,hcall,heq⟩:=map_eq_some_iff.mp h
 obtain ⟨session,hstep,rfl⟩:=call_eq_some hcall
 subst heq
 by_cases hout:(t.session.coordinator.tryAcquire ended (flight.call.charges limit) now).2=.admitted
 · have hmv:=Moves.admitted (e:=e) hfl hlimit hout hstep
   simpa[Transport.setStage,hout,acquiredStage] using hmv
 · have hqt:=Moves.quiet (e:=e) hfl (.event (.acquire hlimit ended now) hstep)
    (acquiredStage flight.call (t.session.coordinator.tryAcquire ended (flight.call.charges limit) now).2) (by
     intro hpast
     generalize (t.session.coordinator.tryAcquire ended (flight.call.charges limit) now).2=outcome at hpast hout
     cases outcome with
     | admitted=>exact absurd rfl hout
     | delayed | invalid=>exact hpast.elim
     | ended=>exact hpast.elim)
   simpa[Transport.setStage,hout] using hqt

theorem moves_ticked {stage:Stage} (hfl:t.flights[i]?=some flight) (hpast:flight.stage.Past)
 (h:((t.tick now).map fun t=>t.setStage i flight stage)=some t'):Moves t e t':=by
 obtain ⟨ticked,htick,rfl⟩:=map_eq_some_iff.mp h
 simp only[Transport.tick,ite_none_right_eq_some,some.injEq] at htick
 obtain ⟨hck,rfl⟩:=htick
 exact .quiet hfl (.tick hck) stage fun _=>hpast

theorem moves_of_step (h:step parseTime t e=some t'):Moves t e t':=by
 cases e with
 | start call=>
  cases h
  exact .started call
 | configureVenue i now=>
  obtain ⟨flight,hfl,hmove⟩:=bind_eq_some_iff.mp h
  simp only[ite_none_right_eq_some] at hmove
  obtain ⟨-,hmove⟩:=hmove
  unfold Transport.configureVenue at hmove
  split at hmove
  · cases hmove
    exact .quiet hfl .same _ fun hpast=>hpast.elim
  next limit hlimit=>exact moves_configure hfl (.venue hlimit now) hmove not_false
 | configureEndpoint i now=>
  obtain ⟨flight,hfl,hmove⟩:=bind_eq_some_iff.mp h
  simp only[ite_none_right_eq_some] at hmove
  obtain ⟨-,hmove⟩:=hmove
  exact moves_configure hfl (.endpoint now) hmove not_false
 | acquire=>
  obtain ⟨flight,hfl,hmove⟩:=bind_eq_some_iff.mp h
  simp only[ite_none_right_eq_some] at hmove
  obtain ⟨-,hmove⟩:=hmove
  obtain ⟨limit,hlimit,hmove⟩:=bind_eq_some_iff.mp hmove
  exact moves_acquire hfl hlimit hmove
 | respond=>
  obtain ⟨flight,hfl,hmove⟩:=bind_eq_some_iff.mp h
  simp only[ite_none_right_eq_some,some.injEq] at hmove
  obtain ⟨hsent,rfl⟩:=hmove
  apply Moves.quiet hfl .same
  intro _
  rw[hsent]
  trivial
 | readDelay=>
  obtain ⟨flight,hfl,hmove⟩:=bind_eq_some_iff.mp h
  split at hmove
  next response hsg=>exact moves_ticked hfl (by rw[hsg]; trivial) hmove
  next=>simp at hmove
 | stamp=>
  obtain ⟨flight,hfl,hmove⟩:=bind_eq_some_iff.mp h
  split at hmove
  next response delay hsg=>exact moves_ticked hfl (by rw[hsg]; trivial) hmove
  next=>simp at hmove
 | block=>
  obtain ⟨flight,hfl,hmove⟩:=bind_eq_some_iff.mp h
  split at hmove
  next response delay time hsg=>
   obtain ⟨called,hcall,rfl⟩:=map_eq_some_iff.mp hmove
   obtain ⟨session,hstep,rfl⟩:=call_eq_some hcall
   exact .cooled hfl hsg hstep
  next=>simp at hmove
 | finish=>
  obtain ⟨flight,hfl,hmove⟩:=bind_eq_some_iff.mp h
  split at hmove
  next response hsg=>
   unfold Transport.finish at hmove
   split at hmove
   next limit _=>
    obtain ⟨called,hcall,rfl⟩:=map_eq_some_iff.mp hmove
    obtain ⟨session,hstep,rfl⟩:=call_eq_some hcall
    exact .quiet hfl (.event (.block _ limit) hstep) _ fun hpast=>hpast.elim
   next=>
    cases hmove
    exact .quiet hfl .same _ fun hpast=>hpast.elim
  next=>simp at hmove

end

/-! ## Budgets -/

theorem units_cases {venue:String} {limit:Int64} (h:localUnitsPerMinute venue=some limit):
 (limit=1200∨limit=600∨limit=300)∧(venueKey venue).validate=true:=by
 unfold localUnitsPerMinute at h
 split at h<;>simp only[some.injEq,reduceCtorEq] at h<;>subst h<;>decide

theorem endpointLimit_cases (policy:HTTPPolicy):
 endpointLimit policy=1∨endpointLimit policy=5∨endpointLimit policy=10:=by
 grind [endpointLimit]

section
variable {parseTime:String→Option Int} {call:Call} {s next:Session} {t t':Transport} {e:Event}

theorem limit?_eq_some {limit:Int64} (h:call.limit?=some limit):
 localUnitsPerMinute call.policy.venue=some limit:=by
 grind [Call.limit?]

theorem small_of_issues {e:RateLimit.Event} (h:Issues call e):e.Small:=by
 cases h with
 | venue hlimit now=>
  obtain ⟨rfl | rfl | rfl,-⟩:=units_cases (limit?_eq_some hlimit)<;>simp only[RateLimit.Event.Small]<;>decide
 | endpoint now=>
  obtain h | h | h:=endpointLimit_cases call.policy<;>simp only[RateLimit.Event.Small,h]<;>decide
 | acquire | block=>trivial

theorem sound_of_asks (hs:s.Sound) (h:Asks call s next):next.Sound:=by
 cases h with
 | same=>exact hs
 | tick hck=>exact hs.tick hck
 | event hiss hstep=>exact sound_step hs (small_of_issues hiss) hstep

theorem Moves.asks (h:Moves t e t'):
 t'.session=t.session∨∃ flight∈t.flights,Asks flight.call t.session t'.session:=by
 cases h with
 | started=>exact .inl rfl
 | quiet hfl hasks=>exact .inr ⟨_,mem_of_getElem? hfl,hasks⟩
 | admitted hfl hlimit _ hstep=>exact .inr ⟨_,mem_of_getElem? hfl,.event (.acquire hlimit _ _) hstep⟩
 | cooled hfl _ hstep=>exact .inr ⟨_,mem_of_getElem? hfl,.event (.block _ _) hstep⟩

theorem Moves.sound (h:Moves t e t') (ht:t.session.Sound):t'.session.Sound:=by
 obtain hsame | ⟨flight,-,hasks⟩:=h.asks
 · rw[hsame]
   exact ht
 · exact sound_of_asks ht hasks

theorem keeps_of_asks (h:Asks call s next):Keeps s.coordinator next.coordinator:=by
 cases h with
 | same | tick=>exact keeps_refl _
 | event _ hstep=>exact keeps_step hstep

theorem Moves.keeps (h:Moves t e t'):Keeps t.session.coordinator t'.session.coordinator:=by
 obtain hsame | ⟨flight,-,hasks⟩:=h.asks
 · rw[hsame]
   exact keeps_refl _
 · exact keeps_of_asks hasks

/-! ## Cooldowns -/

def Respects:Entry→Entry→Prop
 | .cooled venue time delay,.admitted venue' now=>venue=venue'→ time+cooldown delay≤now
 | _,_=>True

structure Transport.Cooling (t:Transport):Prop where
 window:∀ flight∈t.flights,flight.stage.Past →
  ∃ w,t.session.coordinator.windows (venueKey flight.call.policy.venue)=some w
 blocked:∀ venue time delay,.cooled venue time delay∈t.log →
  ∃ w,t.session.coordinator.windows (venueKey venue)=some w∧time+cooldown delay≤w.blockedUntil
 ordered:t.log.Pairwise Respects

theorem blocked_of_keeps {c c':Coordinator} (h:Keeps c c') {key:Key} {limit:Int}
 (hc:∃ w,c.windows key=some w∧limit≤w.blockedUntil):
 ∃ w,c'.windows key=some w∧limit≤w.blockedUntil:=by
 obtain ⟨w,hw,hlimit⟩:=hc
 obtain ⟨w',hw',-,hbl⟩:=h key w hw
 exact ⟨w',hw',by omega⟩

theorem window_of_keeps {c c':Coordinator} (h:Keeps c c') {key:Key} (hc:∃ w,c.windows key=some w):
 ∃ w,c'.windows key=some w:=by
 obtain ⟨w,hw⟩:=hc
 obtain ⟨w',hw',-⟩:=h key w hw
 exact ⟨w',hw'⟩

theorem Transport.Cooling.flights (h:t.Cooling) (hkee:Keeps t.session.coordinator next.coordinator) {i:ℕ}
 {flight:Flight} {stage:Stage} (hsg:stage.Past →
  ∃ w,next.coordinator.windows (venueKey flight.call.policy.venue)=some w):
 ∀ other∈t.flights.set i {flight with stage},other.stage.Past →
  ∃ w,next.coordinator.windows (venueKey other.call.policy.venue)=some w:=by
 apply forall_moved
 · intro other hoth hpast
   exact window_of_keeps hkee (h.window other hoth hpast)
 · exact hsg

theorem Transport.Cooling.quiet (h:t.Cooling) (hkee:Keeps t.session.coordinator next.coordinator) {i:ℕ}
  {flight:Flight} (hfl:t.flights[i]?=some flight) {stage:Stage} (hpast:stage.Past→ flight.stage.Past):
  Transport.Cooling {t with session:=next,flights:=t.flights.set i {flight with stage}} where
 window:=by
  apply h.flights hkee
  intro hsg
  exact window_of_keeps hkee (h.window flight (mem_of_getElem? hfl) (hpast hsg))
 blocked:=by
  intro venue time delay hmem
  exact blocked_of_keeps hkee (h.blocked venue time delay hmem)
 ordered:=h.ordered

theorem pairwise_concat {entries:List Entry} (h:entries.Pairwise Respects) {last:Entry}
 (hlast:∀ entry∈entries,Respects entry last):(entries++[last]).Pairwise Respects:=by
 grind

theorem Transport.Cooling.moves (h:t.Cooling) (hmv:Moves t e t'):t'.Cooling:=by
 have hkee:=hmv.keeps
 cases hmv with
 | started=>
  refine ⟨?_,h.blocked,h.ordered⟩
  intro flight hfl hpast
  obtain hold | hnew:=mem_append.mp hfl
  · exact h.window flight hold hpast
  · rw[mem_singleton.mp hnew] at hpast
    exact hpast.elim
 | quiet hfl hasks stage hpast=>exact h.quiet hkee hfl hpast
 | @admitted _ i flight session limit ended now hfl hlimit hout hstep=>
  have hrea:=((admitted_iff _ _ _ _).mp hout).2.2.2
   { key:=venueKey flight.call.policy.venue,cost:=Int64.ofNat flight.call.policy.cost,
     reserve:=reserve limit flight.call.policy.action} mem_cons_self
  obtain ⟨w,hw,-,hfits⟩:=hrea.window
  have hfree:=hfits.free
  rw[restart_blocked] at hfree
  refine ⟨?_,?_,?_⟩
  · apply h.flights hkee
    intro _
    exact window_of_keeps hkee ⟨w,hw⟩
  · intro venue time delay hmem
    obtain hold | hnew:=mem_append.mp hmem
    · exact blocked_of_keeps hkee (h.blocked venue time delay hold)
    · simp at hnew
  · apply pairwise_concat h.ordered
    intro entry hen
    cases entry with
    | admitted=>trivial
    | cooled venue time delay=>
     rintro rfl
     obtain ⟨w',hw',hbl⟩:=h.blocked _ time delay hen
     grind
 | @cooled _ i flight session response delay time hfl hsg hstep=>
  have hpast:flight.stage.Past:=by
   rw[hsg]
   trivial
  obtain ⟨w,hw⟩:=h.window flight (mem_of_getElem? hfl) hpast
  refine ⟨?_,?_,?_⟩
  · apply h.flights hkee
    intro _
    exact window_of_keeps hkee ⟨w,hw⟩
  · intro venue time' delay' hmem
    obtain hold | hnew:=mem_append.mp hmem
    · exact blocked_of_keeps hkee (h.blocked venue time' delay' hold)
    · simp only[mem_singleton,Entry.cooled.injEq] at hnew
      obtain ⟨rfl,rfl,rfl⟩:=hnew
      simp only[RateLimit.step,some.injEq] at hstep
      subst hstep
      exact block_reaches hw _
  · apply pairwise_concat h.ordered
    intro entry hen
    cases entry<;>trivial

/-- No request is admitted before the retry delay of its venue has passed. -/
theorem cooldowns_respected {start:Int} {events:List Event}
 (hrun:run (step parseTime) {session:={clock:=start}} events=some t):t.log.Pairwise Respects:=by
 have hcoo:t.Cooling:=by
  apply invariant Transport.Cooling _ _ hrun
  · intro t e next h hstep
    exact h.moves (moves_of_step hstep)
  · exact ⟨by simp,by simp,Pairwise.nil⟩
 exact hcoo.ordered

def cooledVenue:List Event:=
 let call : Call:={request:={venue:="okx",method:="GET",path:="/api/v5/account/balance" }}
 [.start call,.configureVenue 0 0,.configureEndpoint 0 0,.acquire 0 false 0,
  .respond 0 (some {status:=429,retryAfter:="2" }),.readDelay 0 0,.stamp 0 0,.block 0,.finish 0,
  .start call,.configureVenue 1 second,.configureEndpoint 1 second,.acquire 1 false second,
  .start call,.configureVenue 2 (2*second),.configureEndpoint 2 (2*second),.acquire 2 false (2*second)]

theorem cooldowns_respected_okx :
 ∃ t,run (step fun _=>none) {session:={clock:=0}} cooledVenue=some t∧
  t.log=[.admitted "okx" 0,.cooled "okx" 0 (2*second),.admitted "okx" (2*second)]∧
  t.log.Pairwise Respects:=by
 have hlog:∃ t,run (step fun _=>none) {session:={clock:=0}} cooledVenue=some t∧
   t.log=[.admitted "okx" 0,.cooled "okx" 0 (2*second),.admitted "okx" (2*second)]:=
  ⟨_,rfl,by decide⟩
 obtain ⟨t,hrun,hlog⟩:=hlog
 exact ⟨t,hrun,hlog,cooldowns_respected hrun⟩

/-! ## The reserve for cancellation -/

def Event.NonCancel:Event→Prop
 | .start call=>call.policy.action≠.cancel
 | _=>True

instance : ∀ e:Event,Decidable e.NonCancel
 | .start call=>inferInstanceAs (Decidable (call.policy.action≠.cancel))
 | .configureVenue .. | .configureEndpoint .. | .acquire .. | .respond .. | .readDelay .. | .stamp .. | .block _
 | .finish _=>.isTrue trivial

theorem venueKey_injective:Function.Injective venueKey:=by
 intro a b h
 have hv:a ++ "/egress" = b ++ "/egress" := congrArg Key.value h
 rwa[String.append_left_inj] at hv

theorem endpointKey_ne (call:Call) (venue:String):call.endpointKey≠venueKey venue:=by
 intro h
 exact absurd (congrArg Key.kind h) nofun

structure Held (limit:Int64) (w:Window):Prop where
 quota:w.quota = {limit,interval:=minute}
 left:w.used.toInt+(limit/5).toInt≤limit.toInt

def Reserved (c:Coordinator):Prop:=
 ∀ venue limit w,localUnitsPerMinute venue=some limit→ c.windows (venueKey venue)=some w→Held limit w

theorem held_unused {limit:Int64} (hlimit:limit=1200∨limit=600∨limit=300) {w:Window}
 (hquote:w.quota = {limit,interval:=minute}) (hused:w.used=0):Held limit w:=by
 refine ⟨hquote,?_⟩
 rw[hused]
 obtain rfl | rfl | rfl:=hlimit<;>decide

theorem Held.restart {limit:Int64} (hlimit:limit=1200∨limit=600∨limit=300) {w:Window}
 (h:Held limit w) (now:Int):Held limit (w.restart now):=by
 unfold Window.restart
 split
 · exact held_unused hlimit h.quota rfl
 · exact h

theorem reserved_configure {key:Key} {quota:Quota} {c c':Coordinator} {now:Int} (h:Reserved c)
 (hkey:∀ venue limit,localUnitsPerMinute venue=some limit→ key=venueKey venue →
  quota = {limit,interval:=minute})
 (hnew:c.configure key quota now=some c'):Reserved c':=by
 obtain ⟨⟨w,hw,hquote,hwas⟩,hos⟩:=configure_eq_some hnew
 intro venue limit w' hlimit hw'
 by_cases heq:venueKey venue=key
 · rw[heq] at hw'
   cases hw.symm.trans hw'
   obtain hold | ⟨-,hused,-⟩:=hwas
   · rw[←heq] at hold
     exact h venue limit w hlimit hold
   · rw[hkey venue limit hlimit heq.symm] at hquote
     exact held_unused (units_cases hlimit).1 hquote hused
 · rw[hos _ heq] at hw'
   exact h venue limit w' hlimit hw'

theorem reserved_acquire {limit:Int64} {ended:Bool} {now:Int} (h:Reserved s.coordinator)
 (hs:s.Sound) (hck:s.clock≤now) (hcan:call.policy.action≠.cancel) (hlimit:call.limit?=some limit):
 Reserved (s.coordinator.tryAcquire ended (call.charges limit) now).1:=by
 intro venue limit' w' hlimit' hw'
 obtain ⟨w,hw,hcas⟩:=hs.window_cases hck ended (call.charges limit) hw'
 have hheld:=h venue limit' w hlimit' hw
 obtain rfl | rfl | ⟨hquote,charge,hch,hkey,hused⟩:=hcas
 · exact hheld
 · exact hheld.restart (units_cases hlimit').1 now
 · refine ⟨hquote.trans hheld.quota,?_⟩
   rw[hheld.quota] at hused
   simp only[Call.charges,mem_cons,not_mem_nil,or_false] at hch
   obtain rfl | rfl:=hch
   · grind [venueKey_injective,limit?_eq_some,reserve]
   · exact absurd hkey (endpointKey_ne call venue)

theorem reserved_block {c:Coordinator} (h:Reserved c) (key:Key) (limit:Int):Reserved (c.block key limit):=by
 unfold Coordinator.block
 split
 next=>exact h
 next w hw=>
  split
  next=>
   intro venue limit' w' hlimit' hw'
   by_cases heq:venueKey venue=key
   · subst heq
     rw[put_self] at hw'
     cases hw'
     have hheld:=h venue limit' w hlimit' hw
     exact ⟨hheld.quota,hheld.left⟩
   · rw[put_ne _ _ heq] at hw'
     exact h venue limit' w' hlimit' hw'
  next=>exact h

theorem reserved_of_asks (h:Reserved s.coordinator) (hs:s.Sound) (hcan:call.policy.action≠.cancel)
 (hasks:Asks call s next):Reserved next.coordinator:=by
 cases hasks with
 | same | tick=>exact h
 | event hiss hstep=>
  cases hiss with
  | venue hlimit now=>
   simp only[RateLimit.step,ite_none_right_eq_some,some.injEq] at hstep
   obtain ⟨-,rfl⟩:=hstep
   cases hnew : s.coordinator.configure (venueKey call.policy.venue) {limit:=_,interval:=minute} now with
   | none=>exact h
   | some=>
    apply reserved_configure h _ hnew
    intro venue limit' hlimit' hkey
    grind [venueKey_injective,limit?_eq_some]
  | endpoint now=>
   simp only[RateLimit.step,ite_none_right_eq_some,some.injEq] at hstep
   obtain ⟨-,rfl⟩:=hstep
   cases hnew : s.coordinator.configure call.endpointKey {limit:=endpointLimit call.policy,interval:=second} now with
   | none=>exact h
   | some=>
    apply reserved_configure h _ hnew
    intro venue limit' _ hkey
    exact absurd hkey (endpointKey_ne call venue)
  | acquire hlimit=>
   simp only[RateLimit.step,ite_none_right_eq_some,some.injEq] at hstep
   obtain ⟨hck,rfl⟩:=hstep
   exact reserved_acquire h hs hck hcan hlimit
  | block key limit=>
   simp only[RateLimit.step,some.injEq] at hstep
   subst hstep
   exact reserved_block h key limit

structure Transport.Quiet (t:Transport):Prop where
 sound:t.session.Sound
 calls:∀ flight∈t.flights,flight.call.policy.action≠.cancel
 reserved:Reserved t.session.coordinator

theorem Moves.calls (h:Moves t e t') (hnew:e.NonCancel)
 (ht:∀ flight∈t.flights,flight.call.policy.action≠.cancel):
 ∀ flight∈t'.flights,flight.call.policy.action≠.cancel:=by
 cases h with
 | started=>
  intro flight hfl
  obtain hold | hlast:=mem_append.mp hfl
  · exact ht flight hold
  · rw[mem_singleton.mp hlast]
    exact hnew
 | quiet hfl | admitted hfl | cooled hfl=>
  grind

theorem Transport.Quiet.moves (h:t.Quiet) (hnew:e.NonCancel) (hmv:Moves t e t'):t'.Quiet:=by
 refine ⟨hmv.sound h.sound,hmv.calls hnew h.calls,?_⟩
 obtain hsame | ⟨flight,hfl,hasks⟩:=hmv.asks
 · rw[hsame]
   exact h.reserved
 · exact reserved_of_asks h.reserved h.sound (h.calls flight hfl) hasks

theorem quiet_run {start:Int} {events:List Event} (hnew:∀ e∈events,e.NonCancel)
 (hrun:run (step parseTime) {session:={clock:=start}} events=some t):t.Quiet:=by
 apply invariant_along Transport.Quiet _ _ (along_of_forall hnew _) hrun
 · intro t e next h hok hstep
   exact h.moves hok (moves_of_step hstep)
 · exact ⟨⟨fun _ _=>rfl,by simp,by simp⟩,by simp,fun _ _ _ _=>by simp⟩

/-! ## A cancellation that follows -/

def Passes (parseTime:String→Option Int) (t:Transport) (call:Call) (n₁ n₂ n₃:Int):Prop:=
 ∃ t' flight,run (step parseTime) t [.start call,.configureVenue t.flights.length n₁,
   .configureEndpoint t.flights.length n₂,.acquire t.flights.length false n₃]=some t'∧
  t'.flights[t.flights.length]?=some flight∧flight.stage=.sent

section
variable {others:List Flight} {log:List Entry} {limit:Int64} {now:Int} {c:Coordinator}

theorem configureVenue_last (hlimit:call.limit?=some limit) (hck:s.clock≤now):
 step parseTime ⟨s,others++[⟨call,.begun⟩],log⟩ (.configureVenue others.length now) =
  some ⟨{s with clock:=now,
                 coordinator:=(s.coordinator.configure (venueKey call.policy.venue) ⟨limit,minute⟩ now).getD
                  s.coordinator},
   others++[⟨call,if (s.coordinator.configure (venueKey call.policy.venue) ⟨limit,minute⟩ now).isSome then
    .venueReady else .refused .budget⟩],log⟩:=by
 simp[step,Transport.flight,Transport.configureVenue,Transport.configure,Transport.call,Transport.setStage,
  RateLimit.step,hlimit,hck]

theorem configureEndpoint_last (hck:s.clock≤now):
 step parseTime ⟨s,others++[⟨call,.venueReady⟩],log⟩ (.configureEndpoint others.length now) =
  some ⟨{s with clock:=now,
                 coordinator:=(s.coordinator.configure call.endpointKey ⟨endpointLimit call.policy,second⟩ now).getD
                  s.coordinator},
   others++[⟨call,if (s.coordinator.configure call.endpointKey ⟨endpointLimit call.policy,second⟩ now).isSome then
    .endpointReady else .refused .budget⟩],log⟩:=by
 simp[step,Transport.flight,Transport.configure,Transport.call,Transport.setStage,RateLimit.step,hck]

theorem acquire_last (parseTime:String→Option Int) (s:Session) (others:List Flight) (log:List Entry) (hlimit:call.limit?=some limit) (hck:s.clock≤now):
 ∃ t',step parseTime ⟨s,others++[⟨call,.endpointReady⟩],log⟩ (.acquire others.length false now)=some t'∧
  t'.flights[others.length]? =
   some ⟨call,acquiredStage call (s.coordinator.tryAcquire false (call.charges limit) now).2⟩:=by
 simp[step,Transport.flight,Transport.acquire,Transport.call,Transport.setStage,RateLimit.step,hlimit,hck]

theorem acquiredStage_eq_sent {outcome:Outcome}:acquiredStage call outcome=.sent ↔ outcome=.admitted:=by
 cases outcome<;>simp[acquiredStage]

theorem passes_iff (hlimit:call.limit?=some limit) {n₁ n₂ n₃:Int} (h₁:t.session.clock≤n₁) (h₂:n₁≤n₂)
 (h₃:n₂≤n₃):
 Passes parseTime t call n₁ n₂ n₃ ↔ ∃ c₁ c₂,
  t.session.coordinator.configure (venueKey call.policy.venue) ⟨limit,minute⟩ n₁=some c₁∧
  c₁.configure call.endpointKey ⟨endpointLimit call.policy,second⟩ n₂=some c₂∧
  (c₂.tryAcquire false (call.charges limit) n₃).2=.admitted:=by
 obtain ⟨s,others,log⟩:=t
 have hstrt:step parseTime ⟨s,others,log⟩ (.start call)=some ⟨s,others++[⟨call,.begun⟩],log⟩:=rfl
 unfold Passes
 simp only[run_cons_of_step hstrt,run_cons_of_step (configureVenue_last hlimit h₁)]
 cases hven : s.coordinator.configure (venueKey call.policy.venue) ⟨limit,minute⟩ n₁ with
 | none=>simp[run,step,Transport.flight]
 | some c₁=>
  simp only[isSome_some,if_true,getD_some,some.injEq]
  rw[run_cons_of_step (configureEndpoint_last h₂)]
  cases hend : c₁.configure call.endpointKey ⟨endpointLimit call.policy,second⟩ n₂ with
  | none=>simp[run,step,Transport.flight,hend]
  | some c₂=>
   simp only[isSome_some,if_true,getD_some]
   obtain ⟨t',hstep,hlast⟩:=acquire_last parseTime {s with clock:=n₂,coordinator:=c₂} others log hlimit h₃
   rw[run_cons_of_step hstep,run_nil]
   grind [acquiredStage_eq_sent]

end

def Cool (c:Coordinator) (call:Call) (now:Int):Prop:=
 zeroTime≤now∧∀ w,c.windows (venueKey call.policy.venue)=some w∨c.windows call.endpointKey=some w →
  w.blockedUntil≤now

section
variable {limit:Int64} {now:Int} {c c':Coordinator} {key:Key} {quota:Quota}

theorem sound_configured (hs:s.Sound) (hck:s.clock≤now) (hiss:Issues call (.configure key quota now))
 (h:s.coordinator.configure key quota now=some c'):
 Session.Sound {s with clock:=now,coordinator:=c'}:=by
 apply sound_step hs (small_of_issues hiss)
 simp[RateLimit.step,hck,h]

theorem blocked_configured (hzero:zeroTime≤now) (hfree:∀ w,c.windows key=some w→ w.blockedUntil≤now) {n:Int}
 (h:c.configure key quota n=some c') {w:Window} (hw:c'.windows key=some w):w.blockedUntil≤now:=by
 grind [configure_eq_some]

theorem used_configured {n:Int} (h:c.configure key quota n=some c'):c'.used key now=c.used key now:=by
 grind [configure_eq_some,Coordinator.used]

theorem ready_one_iff (hs:s.Sound) (hck:s.clock≤now) {w:Window} (hw:s.coordinator.windows key=some w)
 (hfree:w.blockedUntil≤now):
 Ready s.coordinator now {key,cost:=1} ↔ (s.coordinator.used key now).toInt<w.quota.limit.toInt:=by
 have hled:=(hs.ledger key w hw).restart hck
 have hnon:=hled.used_nonneg
 have hle:=hled.used_le
 have hsma:=hs.small key w hw
 have hpos:=w.valid.1
 have hused:=used_of_window hw now
 rw[restart_quota] at hle
 rw[Int64.lt_iff_toInt_lt,Int64.toInt_zero] at hpos
 have hone:(1:Int64).toInt=1:=rfl
 have hsum:((w.restart now).used+1).toInt=(w.restart now).used.toInt+1:=by
  rw[←hone]
  apply toInt_add_of_lt hnon (by decide)
  omega
 have hroom:(w.restart now).Fits now {key,cost:=1} ↔ (w.restart now).used.toInt<w.quota.limit.toInt:=by
  constructor
  · intro hfits
    have hroom:=hfits.room
    rw[restart_quota,Int64.sub_zero,Int64.lt_iff_toInt_lt,hsum] at hroom
    omega
  · intro hlt
    refine ⟨?_,by rw[restart_blocked]; exact hfree⟩
    rw[restart_quota,Int64.sub_zero,Int64.lt_iff_toInt_lt,hsum]
    omega
 rw[hused,←hroom]
 constructor
 · rintro ⟨-,-,w',hw',-,hfits⟩
   grind
 · intro hfits
   refine ⟨(by decide:(0:Int64)<1),Int64.le_refl 0,w,hw,?_,hfits⟩
   rw[Int64.sub_zero,Int64.lt_iff_toInt_lt,hone]
   omega

theorem limit?_of_cancel (hcan:call.policy.action=.cancel) (hsg:SingleOrder call.request)
 (hlimit:localUnitsPerMinute call.policy.venue=some limit):call.limit?=some limit:=by
 have hcost:call.policy.cost=1:=cancel_cost hcan hsg
 have hend:call.policy.endpoint≠"" := endpoint_ne_empty call.request
 simp[Call.limit?,hcost,hend,hlimit]

theorem charges_of_cancel (hcan:call.policy.action=.cancel) (hsg:SingleOrder call.request):
 call.charges limit=[{key:=venueKey call.policy.venue,cost:=1},{key:=call.endpointKey,cost:=1}]:=by
 have hcost:call.policy.cost=1:=cancel_cost hcan hsg
 simp[Call.charges,reserve,hcan,hcost]

theorem venue_ready (hs:s.Sound) (hres:Reserved s.coordinator) (hck:s.clock≤now)
 (hlimit:localUnitsPerMinute call.policy.venue=some limit) {w:Window}
 (hw:s.coordinator.windows (venueKey call.policy.venue)=some w) (hfree:w.blockedUntil≤now):
 Ready s.coordinator now {key:=venueKey call.policy.venue,cost:=1}:=by
 obtain ⟨hcas,-⟩:=units_cases hlimit
 have hheld:=(hres _ limit w hlimit hw).restart hcas now
 rw[ready_one_iff hs hck hw hfree,used_of_window hw now,←restart_quota w now,hheld.quota]
 have hleft:=hheld.left
 have hfif:0<(limit/5).toInt:=by
  obtain rfl | rfl | rfl:=hcas<;>decide
 grind

/-- When a cancel still passes after any run of other requests. -/
theorem cancel_passes_iff {start:Int} {events:List Event} (hnew:∀ e∈events,e.NonCancel)
 (hrun:run (step parseTime) {session:={clock:=start}} events=some t)
 (hcancel:call.policy.action=.cancel) (hsingle:SingleOrder call.request)
 (hlimit:localUnitsPerMinute call.policy.venue=some limit) {n₁ n₂ n₃:Int} (h₁:t.session.clock≤n₁)
 (h₂:n₁≤n₂) (h₃:n₂≤n₃) (hcool:Cool t.session.coordinator call n₃):
 Passes parseTime t call n₁ n₂ n₃ ↔
  call.endpointKey.validate=true∧
  (∀ w,t.session.coordinator.windows call.endpointKey=some w →
   w.quota = {limit:=endpointLimit call.policy,interval:=second})∧
  (t.session.coordinator.used call.endpointKey n₃).toInt<(endpointLimit call.policy).toInt:=by
 obtain ⟨hso,-,hres⟩:=quiet_run hnew hrun
 obtain ⟨hcas,hval⟩:=units_cases hlimit
 have hkno:=limit?_of_cancel hcancel hsingle hlimit
 have hne:=endpointKey_ne call call.policy.venue
 have hven:(t.session.coordinator.configure (venueKey call.policy.venue) ⟨limit,minute⟩ n₁).isSome=true:=by
  rw[configure_isSome_iff]
  refine ⟨hval,?_,(by decide:0< minute),fun w hw=>(hres _ limit w hlimit hw).quota⟩
  grind
 obtain ⟨c₁,hc₁⟩:=isSome_iff_exists.mp hven
 obtain ⟨⟨v,hv,-⟩,hos⟩:=configure_eq_some hc₁
 have hsoun:=sound_configured hso h₁ (.venue hkno n₁) hc₁
 have hrese:Reserved c₁:=by
  apply reserved_configure hres _ hc₁
  intro venue limit' hlimit' hkey
  grind [venueKey_injective]
 have hfree:=blocked_configured hcool.1 (fun w hw=>hcool.2 w (.inl hw)) hc₁ hv
 have hend:(c₁.configure call.endpointKey ⟨endpointLimit call.policy,second⟩ n₂).isSome=true ↔
   call.endpointKey.validate=true∧∀ w,t.session.coordinator.windows call.endpointKey=some w →
    w.quota = {limit:=endpointLimit call.policy,interval:=second}:=by
  rw[configure_isSome_iff,hos _ hne]
  have hpos:0<endpointLimit call.policy:=by
   grind [endpointLimit_cases]
  exact ⟨fun h=>⟨h.1,h.2.2.2⟩,fun h=>⟨h.1,hpos,(by decide:0<second),h.2⟩⟩
 rw[passes_iff hkno h₁ h₂ h₃,←and_assoc,←hend]
 simp only[hc₁,some.injEq,exists_and_left,exists_eq_left']
 cases hc₂ : c₁.configure call.endpointKey ⟨endpointLimit call.policy,second⟩ n₂ with
 | none=>simp
 | some c₂=>
  obtain ⟨⟨w,hw,hquote,-⟩,hos'⟩:=configure_eq_some hc₂
  have hsou:=sound_configured hsoun h₂ (.endpoint n₂) hc₂
  have hrsr:Reserved c₂:=by
   apply reserved_configure hrese _ hc₂
   intro venue _ _ hkey
   exact absurd hkey (endpointKey_ne call venue)
  have hfree':w.blockedUntil≤n₃:=by
   apply blocked_configured hcool.1 _ hc₂ hw
   intro w' hw'
   rw[hos _ hne] at hw'
   exact hcool.2 w' (.inr hw')
  have hvent:c₂.windows (venueKey call.policy.venue)=some v:=by rw[hos' _ hne.symm,hv]
  have hrea:=venue_ready hsou hrsr h₃ hlimit hvent hfree
  have hroom:=ready_one_iff hsou h₃ hw hfree'
  have hused:c₂.used call.endpointKey n₃=t.session.coordinator.used call.endpointKey n₃:=by
   rw[used_configured hc₂]
   unfold Coordinator.used
   rw[hos _ hne]
  grind [admitted_iff,charges_of_cancel]

end

def sendTx (txType:String):Call:=
 {request:=
   { venue:="lighter",method:="POST",path:="/api/v1/sendTx",body:=some "",
     form:=some [("tx_type",some txType)]}}

def placements:ℕ→List Event
 | 0=>[]
 | n+1=>placements n++[.start (sendTx "14"),.configureVenue n 0,.configureEndpoint n 0,.acquire n false 0]

theorem cancel_passes_iff_lighter :
 ∃ t,run (step fun _=>none) {session:={clock:=0}} (placements 4)=some t∧
  Passes (fun _=>none) t (sendTx "15") 0 0 0:=by
 have hused:∃ t,run (step fun _=>none) {session:={clock:=0}} (placements 4)=some t∧
   t.session.clock=0∧(t.session.coordinator.used (sendTx "15").endpointKey 0).toInt=4∧
   (∀ w,t.session.coordinator.windows (venueKey "lighter")=some w→ w.blockedUntil=zeroTime)∧
   ∀ w,t.session.coordinator.windows (sendTx "15").endpointKey=some w →
    w.blockedUntil=zeroTime∧w.quota = {limit:=5,interval:=second}:=by
  refine ⟨_,rfl,rfl,by decide,?_,?_⟩
  · rintro w hw
    cases hw
    rfl
  · rintro w hw
    cases hw
    exact ⟨rfl,rfl⟩
 obtain ⟨t,hrun,hck,hused,hven,hend⟩:=hused
 refine ⟨t,hrun,?_⟩
 have hcool:Cool t.session.coordinator (sendTx "15") 0:=by
  refine ⟨by decide,?_⟩
  rintro w (hw | hw)
  · rw[hven w hw]
    decide
  · rw[(hend w hw).1]
    decide
 have hiff:Passes (fun _=>none) t (sendTx "15") 0 0 0 ↔ _:=cancel_passes_iff (by decide) hrun (by decide)
  ⟨by decide,by decide⟩ rfl (by rw[hck]) (Int.le_refl 0) (Int.le_refl 0) hcool
 refine hiff.mpr ⟨by decide,fun w hw=>(hend w hw).2,?_⟩
 rw[hused]
 decide

theorem cancel_refused_after_placements :
 (∀ e∈placements 5,e.NonCancel)∧(sendTx "15").policy.action=.cancel∧SingleOrder (sendTx "15").request∧
 ∃ t,run (step fun _=>none) {session:={clock:=0}} (placements 5)=some t∧
  Cool t.session.coordinator (sendTx "15") 0∧
  ∃ t',run (step fun _=>none) t
    [.start (sendTx "15"),.configureVenue 5 0,.configureEndpoint 5 0,.acquire 5 false 0]=some t'∧
   t'.flights[5]?=some ⟨sendTx "15",.refused (.limited second .cancel)⟩:=by
 refine ⟨by decide,by decide,⟨by decide,by decide⟩,_,rfl,⟨by decide,?_⟩,_,rfl,by decide⟩
 rintro w (hw | hw)<;>cases hw<;>decide

end

end BolterTrader.RateTransport
