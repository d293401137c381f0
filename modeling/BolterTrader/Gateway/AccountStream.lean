import BolterTrader.Foundations.Publication
import BolterTrader.Foundations.Transition
import BolterTrader.Gateway.AccountState

/-! The private streams of an account and what the gateway publishes of it
(`gateway/account/runtime.go`). -/
namespace BolterTrader.AccountStream
open Foundations Exchange Gateway Publication Transition Threads List Option

structure RouteClient where
 market:Market
 perp:Bool:=true

structure Status where
 connected:Bool
 markets:List (String×Bool)
 deriving DecidableEq

inductive Report where
 | active | closed | other
 deriving DecidableEq

inductive Phase where
 | live
 | failed
 | left
 deriving DecidableEq

structure MarketStream where
 run:ℕ
 market:Market
 phase:Phase:=.live
 reported:Option Report:=none

structure Run where
 topic:ℕ
 active:Bool:=true

structure System where
 rt:Runtime:={}
 connected:Market→Bool:=fun _=>false
 emit:Option ℕ:=none
 topic:ℕ:=0
 positions:Channel (List PositionRow):={}
 status:Channel Status:={}
 runs:List Run:=[]
 streams:List MarketStream:=[]

inductive Event where
 | reopen
 | start
 | refuse (stream:ℕ)
 | report (stream:ℕ) (report:Report)
 | fail (stream:ℕ)
 | leave (stream:ℕ)
 | position (stream:ℕ) (id:String) (event:PositionEvent)
 | load (market:Market) (natives:List Position)
 | publishPositions
 | publishStatus
 | bindPositions (publication:ℕ)
 | readPositions (publication:ℕ)
 | emitPositions (publication:ℕ)
 | readStatus (publication:ℕ)
 | emitStatus (publication:ℕ)
 | exit (run:ℕ)

structure Account where
 clients:List RouteClient
 resolveNative:Market→String→String→Option String
 sortPositions:SliceSort positionLess

variable (account:Account)

def fetchPositions (market:Market) (natives:List Position):List PositionRow:=
 account.sortPositions.sort (natives.filterMap fun native=>
  (account.resolveNative market native.nativeSymbol native.nativeId).bind fun id=>projectPosition id native)

namespace System
variable (s:System)

def positionList:List PositionRow:=account.clients.flatMap fun client=>s.rt.positions client.market

def statusData:Status:=
 { connected:=!account.clients.isEmpty && account.clients.all fun client=>s.connected client.market
   markets:=account.clients.map fun client=>(client.market.text,s.connected client.market)}

def fresh (market:Market):Bool:=s.rt.loaded market && s.emit.isSome && s.connected market

def setConnected (market:Market) (connected:Bool):System:=
 {s with
   connected:=Function.update s.connected market connected
   status:=if s.connected market≠connected then s.status.publish else s.status}

def loadMarket (market:Market) (natives:List Position):System:=
 {s with
   rt:={s.rt with
    positions:=Function.update s.rt.positions market (fetchPositions account market natives)
    loaded:=Function.update s.rt.loaded market true}
   positions:=s.positions.publish}

def applyPositionEvent (market:Market) (id:String) (event:PositionEvent):System:=
 {s with
   rt:=s.rt.applyPositionEvent account.sortPositions market id event
   positions:=s.positions.publish}

def live (j:ℕ):Option MarketStream:=s.streams[j]?.filter fun stream=>stream.phase=.live
def setStream (j:ℕ) (stream:MarketStream):System:={s with streams:=s.streams.set j stream}
def isActive (i:ℕ):Bool:=(s.runs[i]?.map Run.active).getD false

def cancelled (i:ℕ):Bool:=
 match s.runs[i]? with
 | some run=>!run.active || run.topic≠s.topic
 | none=>true

def ends (i:ℕ) (run:Run):Bool:=
 run.active && (run.topic≠s.topic || s.streams.any fun stream=>stream.run=i && stream.phase=.failed)

def cleanup (i:ℕ) (run:Run):System:=
 {s with runs:=s.runs.set i {run with active:=false},emit:=none,connected:=fun _=>false}

def start:System:=
 {s with
   emit:=some s.topic
   runs:=s.runs++[{topic:=s.topic}]
   streams:=s.streams++account.clients.map fun client=>{run:=s.runs.length,market:=client.market}}

end System

def step (s:System):Event→Option System
 | .reopen=>some {s with topic:=s.topic+1,positions:=s.positions.reset,status:=s.status.reset}
 | .start=>
  -- the hub calls again only when the last call for the topic is back
  if s.runs.all fun run=>!(run.active && run.topic=s.topic) then some (s.start account) else none
 | .refuse j=>
  ((s.live j).filter fun stream=>stream.reported=none).map fun stream=>
   s.setStream j {stream with phase:=.failed}
 | .report j report=>
  (s.live j).map fun stream=>
   (s.setConnected stream.market (report=.active)).setStream j
    {stream with reported:=some report,phase:=if report=.closed then .failed else .live}
 | .fail j=>
  (s.live j).map fun stream=>(s.setConnected stream.market false).setStream j {stream with phase:=.failed}
 | .leave j=>
  ((s.live j).filter fun stream=>s.cancelled stream.run).map fun stream=>
   s.setStream j {stream with phase:=.left}
 | .position j id event=>(s.live j).map fun stream=>s.applyPositionEvent account stream.market id event
 | .load market natives=>
  if account.clients.any fun client=>client.perp && client.market=market then
   some (s.loadMarket account market natives)
  else none
 | .publishPositions=>some {s with positions:=s.positions.publish}
 | .publishStatus=>some {s with status:=s.status.publish}
 | .bindPositions p=>(s.positions.bind p s.emit).map fun positions=>{s with positions}
 | .readPositions p=>(s.positions.read p (s.positionList account)).map fun positions=>{s with positions}
 | .emitPositions p=>(s.positions.emit p s.topic).map fun positions=>{s with positions}
 | .readStatus p=>(s.status.take p s.emit (s.statusData account)).map fun status=>{s with status}
 | .emitStatus p=>(s.status.emit p s.topic).map fun status=>{s with status}
 | .exit i=>(s.runs[i]?.filter (s.ends i)).map (s.cleanup i)

/-! ## What a step does to the runs and their goroutines -/

variable {account} {s s':System} {event:Event}

inductive Moves (s:System):Event→System→Prop where
 | quiet {event:Event} {s':System} (hconnected:s'.connected=s.connected) (hruns:s'.runs=s.runs)
  (hstreams:s'.streams=s.streams):Moves s event s'
 | started {s':System} (markets:List Market) (hconnected:s'.connected=s.connected)
  (hruns:s'.runs=s.runs++[{topic:=s.topic}])
  (hstreams:s'.streams=s.streams++markets.map fun market=>{run:=s.runs.length,market:=market}):
  Moves s .start s'
 | moved {event:Event} {s':System} {j:ℕ} {stream new:MarketStream} (hj:s.streams[j]?=some stream)
  (hlive:stream.phase=.live) (hstreams:s'.streams=s.streams.set j new)
  (hconnected:s'.connected=s.connected) (hruns:s'.runs=s.runs) (hrun:new.run=stream.run)
  (hmarket:new.market=stream.market) (hreported:new.reported=stream.reported):Moves s event s'
 | reported {event:Event} {s':System} {j:ℕ} {stream new:MarketStream} {connected:Bool}
  (hj:s.streams[j]?=some stream) (hlive:stream.phase=.live) (hstreams:s'.streams=s.streams.set j new)
  (hconnected:s'.connected=Function.update s.connected stream.market connected) (hruns:s'.runs=s.runs)
  (hrun:new.run=stream.run) (hmarket:new.market=stream.market)
  (hreported:connected=true→ new.reported=some .active):Moves s event s'
 | exited {s':System} {i:ℕ} {run:Run} (hi:s.runs[i]?=some run) (hactive:run.active=true)
  (hconnected:s'.connected=fun _=>false) (hruns:s'.runs=s.runs.set i {run with active:=false})
  (hstreams:s'.streams=s.streams):Moves s (.exit i) s'

theorem of_live {j:ℕ} {stream:MarketStream} (h:s.live j=some stream):
 s.streams[j]?=some stream∧stream.phase=.live:=by
 simpa[System.live,filter_eq_some_iff] using h

theorem of_channel {β:Type} {res:Option β} {f:β→System} (h:res.map f=some s')
 (hcon:∀ c,(f c).connected=s.connected) (hruns:∀ c,(f c).runs=s.runs)
 (hss:∀ c,(f c).streams=s.streams):Moves s event s':=by
 obtain ⟨c,-,rfl⟩:=map_eq_some_iff.mp h
 exact .quiet (hcon c) (hruns c) (hss c)

theorem moves_of_step (h:step account s event=some s'):Moves s event s':=by
 cases event with
 | reopen | publishPositions | publishStatus=>
  cases h
  exact .quiet rfl rfl rfl
 | start=>
  simp only[step] at h
  split at h<;>cases h
  refine .started (account.clients.map RouteClient.market) rfl rfl ?_
  simp[System.start,Function.comp_def]
 | refuse | leave=>
  obtain ⟨stream,hstream,rfl⟩:=map_eq_some_iff.mp h
  obtain ⟨hj,hlive⟩:=of_live (filter_eq_some_iff.mp hstream).1
  exact .moved hj hlive rfl rfl rfl rfl rfl rfl
 | report=>
  obtain ⟨stream,hstream,rfl⟩:=map_eq_some_iff.mp h
  obtain ⟨hj,hlive⟩:=of_live hstream
  refine .reported hj hlive rfl rfl rfl rfl rfl ?_
  grind
 | fail=>
  obtain ⟨stream,hstream,rfl⟩:=map_eq_some_iff.mp h
  obtain ⟨hj,hlive⟩:=of_live hstream
  exact .reported hj hlive rfl rfl rfl rfl rfl nofun
 | position | bindPositions | readPositions | emitPositions | readStatus | emitStatus=>
  exact of_channel h (fun _=>rfl) (fun _=>rfl) fun _=>rfl
 | load=>
  simp only[step] at h
  split at h<;>cases h
  exact .quiet rfl rfl rfl
 | exit=>
  obtain ⟨run,hrun,rfl⟩:=map_eq_some_iff.mp h
  obtain ⟨hi,hends⟩:=filter_eq_some_iff.mp hrun
  simp only[System.ends,Bool.and_eq_true] at hends
  exact .exited hi hends.1 rfl rfl rfl

/-! ## Markets served from memory -/

def System.Separate (s:System):Event→Prop
 | .start=>∀ run∈s.runs,run.active=false
 | .exit i=>∀ stream∈s.streams,stream.run=i→ stream.phase≠.live
 | _=>True

instance (s:System):∀ event:Event,Decidable (s.Separate event)
 | .start=>inferInstanceAs (Decidable (∀ run∈s.runs,run.active=false))
 | .exit i=>inferInstanceAs (Decidable (∀ stream∈s.streams,stream.run=i→ stream.phase≠.live))
 | .reopen | .refuse _ | .report .. | .fail _ | .leave _ | .position .. | .load .. | .publishPositions
 | .publishStatus | .bindPositions _ | .readPositions _ | .emitPositions _ | .readStatus _ | .emitStatus _=>
  .isTrue trivial

/-- The stream of the last run for this market has reported that it is active. -/
def System.Served (s:System) (market:Market):Prop:=
 ∃ stream∈s.streams,stream.run+1=s.runs.length∧s.isActive stream.run=true∧stream.market=market∧
  stream.reported=some .active

structure System.Supervised (s:System):Prop where
 single:∀ i,s.isActive i=true→ i+1=s.runs.length
 streams:∀ stream∈s.streams,stream.phase=.live→ s.isActive stream.run=true
 connected:∀ market,s.connected market=true→ s.Served market

theorem isActive_iff {i:ℕ}:s.isActive i=true ↔ ∃ run,s.runs[i]?=some run∧run.active=true:=by
 grind [System.isActive]

theorem isActive_congr (h:s'.runs=s.runs) (i:ℕ):s'.isActive i=s.isActive i:=by
 simp[System.isActive,h]

theorem inactive_of_forall (h:∀ run∈s.runs,run.active=false) (i:ℕ):¬s.isActive i=true:=by
 rw[isActive_iff]
 grind

theorem isActive_started {run:Run} {i:ℕ} (hruns:s'.runs=s.runs++[run]) (hact:run.active=true):
 s'.isActive i=true ↔ i=s.runs.length∨s.isActive i=true:=by
 grind [isActive_iff]

theorem isActive_exited {run new:Run} {i k:ℕ} (hi:s.runs[i]?=some run) (hruns:s'.runs=s.runs.set i new)
 (hnew:new.active=false):s'.isActive k=true→ k≠i∧s.isActive k=true:=by
 grind [isActive_iff,moved_cases]

theorem served_moved {j:ℕ} {stream new:MarketStream} {market:Market} (h:s.Served market)
 (hj:s.streams[j]?=some stream) (hruns:s'.runs=s.runs) (hss:s'.streams=s.streams.set j new)
 (hrun:new.run=stream.run) (hmk:new.market=stream.market)
 (hrep:stream.market=market→ new.reported=stream.reported):s'.Served market:=by
 obtain ⟨old,hold,hlast,hact,hown,hser⟩:=h
 obtain ⟨k,hk⟩:=mem_iff_getElem?.mp hold
 have hmem (oth:MarketStream) (hoth:(s.streams.set j new)[k]?=some oth):oth∈s'.streams:=
  hss▸mem_of_getElem? hoth
 by_cases hkj:k=j
 · subst hkj
   have hsame:stream=old:=some.inj (hj.symm.trans hk)
   subst hsame
   refine ⟨new,hmem new (getElem?_moved_self hj new),?_,?_,hmk.trans hown,(hrep hown).trans hser⟩
   all_goals grind [isActive_congr]
 · refine ⟨old,hmem old ((getElem?_moved_ne hj new hkj).trans hk),?_,?_,hown,hser⟩
   all_goals grind [isActive_congr]

theorem System.Supervised.streams_moved {j:ℕ} {stream new:MarketStream} (h:s.Supervised)
 (hj:s.streams[j]?=some stream) (hlive:stream.phase=.live) (hruns:s'.runs=s.runs)
 (hss:s'.streams=s.streams.set j new) (hrun:new.run=stream.run):
 ∀ oth∈s'.streams,oth.phase=.live→ s'.isActive oth.run=true:=by
 have hact:=h.streams stream (mem_of_getElem? hj) hlive
 rw[hss]
 simp only[isActive_congr hruns]
 exact forall_moved h.streams fun _=>hrun▸hact

theorem System.Supervised.step (h:s.Supervised) (hsep:s.Separate event)
 (hstep:AccountStream.step account s event=some s'):s'.Supervised:=by
 cases moves_of_step hstep with
 | quiet hcon hruns hss=>
  refine ⟨?_,?_,?_⟩
  · simpa only[isActive_congr hruns,hruns] using h.single
  · simpa only[isActive_congr hruns,hss] using h.streams
  · simpa only[System.Served,isActive_congr hruns,hss,hcon,hruns] using h.connected
 | started mrk hcon hruns hss=>
  -- no goroutine of an earlier run is left, and no market is connected
  have hnone:=inactive_of_forall hsep
  refine ⟨?_,?_,?_⟩
  · grind [isActive_started]
  · intro stream hstream hlive
    rw[hss,mem_append] at hstream
    obtain hold | hnew:=hstream
    · exact absurd (h.streams stream hold hlive) (hnone stream.run)
    · grind [isActive_started]
  · intro venueMarket hmk
    rw[hcon] at hmk
    obtain ⟨stream,-,-,hact,-⟩:=h.connected venueMarket hmk
    grind
 | moved hj hlive hss hcon hruns hrun hmk hrep=>
  refine ⟨?_,h.streams_moved hj hlive hruns hss hrun,?_⟩
  · simpa only[isActive_congr hruns,hruns] using h.single
  · intro venueMarket hser
    rw[hcon] at hser
    exact served_moved (h.connected venueMarket hser) hj hruns hss hrun hmk fun _=>hrep
 | @reported event s' j stream new conn hj hlive hss hcon hruns hrun hmk hrep=>
  refine ⟨?_,h.streams_moved hj hlive hruns hss hrun,?_⟩
  · simpa only[isActive_congr hruns,hruns] using h.single
  · intro venueMarket hser
    rw[hcon] at hser
    by_cases hsame:venueMarket=stream.market
    · subst hsame
      rw[Function.update_self] at hser
      have hact:=h.streams stream (mem_of_getElem? hj) hlive
      refine ⟨new,?_,?_,?_,hmk,hrep hser⟩
      · rw[hss]
        exact mem_of_getElem? (getElem?_moved_self hj new)
      · rw[hrun,hruns]
        exact h.single stream.run hact
      · rw[hrun,isActive_congr hruns]
        exact hact
    · rw[Function.update_of_ne hsame] at hser
      exact served_moved (h.connected venueMarket hser) hj hruns hss hrun hmk fun heq=>absurd heq.symm hsame
 | @exited s' i run hi hact hcon hruns hss=>
  have hlast:=h.single i (isActive_iff.mpr ⟨run,hi,hact⟩)
  have hnone (k:ℕ):¬s'.isActive k=true:=by
   intro hk
   obtain ⟨hne,hk⟩:=isActive_exited hi hruns rfl hk
   have hoth:=h.single k hk
   omega
  refine ⟨fun k hk=>absurd hk (hnone k),?_,fun venueMarket hmk=>?_⟩
  · intro stream hstream hlive
    rw[hss] at hstream
    have hsti:=h.single stream.run (h.streams stream hstream hlive)
    exact absurd hlive (hsep stream hstream (by omega))
  · simp[hcon] at hmk

theorem supervised_empty:({}:System).Supervised:=⟨by simp[System.isActive],by simp,by simp⟩

/-- A market is answered from memory only while its stream runs and is connected. -/
theorem served_from_memory_while_active {events:List Event}
 (hseparate:Along (AccountStream.step account) System.Separate {} events)
 (hrun:run (AccountStream.step account) {} events=some s):
 (∀ market,s.fresh market=true→ s.Served market)∧
  ∀ j stream,s.streams[j]?=some stream →
   (AccountStream.step account s (.report j .active)).isSome=true→ s.isActive stream.run=true:=by
 have hsup:=invariant_along System.Supervised (fun _ _ _ h hok=>h.step hok) supervised_empty hseparate hrun
 constructor
 · intro market hfr
   simp only[System.fresh,Bool.and_eq_true] at hfr
   exact hsup.connected market hfr.2
 · intro j stream hj hrep
   obtain ⟨next,hnext⟩:=isSome_iff_exists.mp hrep
   obtain ⟨other,hoth,-⟩:=map_eq_some_iff.mp hnext
   obtain ⟨hj',hlive⟩:=of_live hoth
   have hsame:stream=other:=some.inj (hj.symm.trans hj')
   subst hsame
   exact hsup.streams stream (mem_of_getElem? hj) hlive

namespace Scenario

def perp:Market:={venue:=.binance,product:=.perp,settlement:="USDT" }
def spot:Market:={venue:=.binance,product:=.spot}

def binance:Account:=
 { clients:=[{market:=perp},{market:=spot,perp:=false}]
   resolveNative:=fun _ symbol _=>some symbol
   sortPositions}

def orderly:List Event:=
 [.start,.load perp [],.report 0 .active,.report 1 .active,.fail 0,.fail 1,.exit 0,.start,.report 2 .active]

def leftover:List Event:=[.start,.load perp [],.report 0 .active,.fail 1,.exit 0,.report 0 .active,.start]

end Scenario

theorem served_from_memory_while_active_binance :
 Along (AccountStream.step Scenario.binance) System.Separate {} Scenario.orderly∧
  ∃ s,run (AccountStream.step Scenario.binance) {} Scenario.orderly=some s∧s.fresh Scenario.perp=true∧
   s.Served Scenario.perp:=by
 have hsep:Along (AccountStream.step Scenario.binance) System.Separate {} Scenario.orderly:=by decide
 have h:∃ s,run (AccountStream.step Scenario.binance) {} Scenario.orderly=some s∧
  s.fresh Scenario.perp=true:=⟨_,rfl,by decide⟩
 obtain ⟨s,hrun,hfr⟩:=h
 exact ⟨hsep,s,hrun,hfr,(served_from_memory_while_active hsep hrun).1 Scenario.perp hfr⟩

instance (s:System) (market:Market):Decidable (s.Served market):=
 inferInstanceAs (Decidable (∃ stream∈s.streams,stream.run+1=s.runs.length∧
  s.isActive stream.run=true∧stream.market=market∧stream.reported=some .active))

theorem served_by_leftover_goroutine :
 ∃ s,run (AccountStream.step Scenario.binance) {} Scenario.leftover=some s∧
  s.fresh Scenario.perp=true∧¬s.Served Scenario.perp:=
 ⟨_,rfl,by decide⟩

end BolterTrader.AccountStream
