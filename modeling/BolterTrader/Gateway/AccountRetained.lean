import BolterTrader.Gateway.AccountStream

/-! What a late subscriber to an account sees first (`gateway/account/runtime.go`,
`gateway/hub/hub.go`): the last positions and the last status that the hub retains. -/
namespace BolterTrader.AccountStream
open Foundations Exchange Gateway Publication Transition Threads List Option

variable (account:Account) {s s':System} {event:Event}

def System.Orderly (s:System):Event→Prop
 | .bindPositions _=>s.emit=some s.topic
 | .readPositions _=>s.positions.held s.topic=[]
 | .readStatus _=>s.emit=some s.topic∧s.status.held s.topic=[]
 | .exit _=>∀ client∈account.clients,s.connected client.market=false
 | _=>True

instance (s:System):∀ event:Event,Decidable (s.Orderly account event)
 | .bindPositions _=>inferInstanceAs (Decidable (s.emit=some s.topic))
 | .readPositions _=>inferInstanceAs (Decidable (s.positions.held s.topic=[]))
 | .readStatus _=>inferInstanceAs (Decidable (s.emit=some s.topic∧s.status.held s.topic=[]))
 | .exit _=>inferInstanceAs (Decidable (∀ client∈account.clients,s.connected client.market=false))
 | .reopen | .start | .refuse _ | .report .. | .fail _ | .leave _ | .position .. | .load .. | .publishPositions
 | .publishStatus | .emitPositions _ | .emitStatus _=>.isTrue trivial

structure System.Settling (s:System):Prop where
 positions:s.positions.Settling s.topic (s.positionList account)
 status:s.status.Settling s.topic (s.statusData account)

variable {account}

theorem statusData_congr (h:∀ cl∈account.clients,s'.connected cl.market=s.connected cl.market):
 s'.statusData account=s.statusData account:=by
 have hmar:account.clients.map (fun cl=>(cl.market.text,s'.connected cl.market)) =
   account.clients.map fun cl=>(cl.market.text,s.connected cl.market):=by
  apply map_congr_left
  intro cl hcl
  rw[h cl hcl]
 have hall:(account.clients.all fun cl=>s'.connected cl.market) =
   account.clients.all fun cl=>s.connected cl.market:=by
  rw[Bool.eq_iff_iff,List.all_eq_true,List.all_eq_true]
  exact forall₂_congr fun cl hcl=>by rw[h cl hcl]
 simp only[System.statusData,hmar,hall]

theorem status_setConnected (h:s.status.Settling s.topic (s.statusData account)) (market:Market) (connected:Bool):
 (s.setConnected market connected).status.Settling s.topic ((s.setConnected market connected).statusData account):=by
 by_cases hsame:s.connected market=connected
 · have hupd:(s.setConnected market connected).connected=s.connected:=by
    simp[System.setConnected,←hsame]
   grind [statusData_congr,System.setConnected]
 · have hst:(s.setConnected market connected).status=s.status.publish:=by simp[System.setConnected,hsame]
   rw[hst]
   exact h.publish _

theorem System.Settling.setConnected (h:s.Settling account) (market:Market) (connected:Bool):
 (s.setConnected market connected).Settling account:=
 ⟨h.positions,status_setConnected h.status market connected⟩

theorem System.Settling.setStream (h:s.Settling account) (j:ℕ) (stream:MarketStream):
 (s.setStream j stream).Settling account:=
 ⟨h.positions,h.status⟩

theorem System.Settling.step (h:s.Settling account) (horde:s.Orderly account event)
 (hstep:AccountStream.step account s event=some s'):s'.Settling account:=by
 cases event with
 | reopen=>
  cases hstep
  exact ⟨h.positions.reset,h.status.reset⟩
 | start=>
  simp only[AccountStream.step] at hstep
  split at hstep<;>cases hstep
  exact ⟨h.positions,h.status⟩
 | refuse j | leave j=>
  obtain ⟨stream,-,rfl⟩:=map_eq_some_iff.mp hstep
  exact h.setStream j _
 | report j=>
  obtain ⟨stream,-,rfl⟩:=map_eq_some_iff.mp hstep
  exact (h.setConnected stream.market _).setStream j _
 | fail j=>
  obtain ⟨stream,-,rfl⟩:=map_eq_some_iff.mp hstep
  exact (h.setConnected stream.market false).setStream j _
 | position=>
  obtain ⟨stream,-,rfl⟩:=map_eq_some_iff.mp hstep
  exact ⟨h.positions.publish _,h.status⟩
 | load=>
  simp only[AccountStream.step] at hstep
  split at hstep<;>cases hstep
  exact ⟨h.positions.publish _,h.status⟩
 | publishPositions=>
  cases hstep
  exact ⟨h.positions.publish _,h.status⟩
 | publishStatus=>
  cases hstep
  exact ⟨h.positions,h.status.publish _⟩
 | bindPositions=>
  obtain ⟨poss,hbind,rfl⟩:=map_eq_some_iff.mp hstep
  have hopen:s.emit=some s.topic:=horde
  rw[hopen] at hbind
  exact ⟨h.positions.bind hbind,h.status⟩
 | readPositions=>
  obtain ⟨poss,hread,rfl⟩:=map_eq_some_iff.mp hstep
  exact ⟨h.positions.read horde hread,h.status⟩
 | emitPositions=>
  obtain ⟨poss,hemit,rfl⟩:=map_eq_some_iff.mp hstep
  exact ⟨h.positions.emit hemit,h.status⟩
 | readStatus=>
  obtain ⟨sts,htake,rfl⟩:=map_eq_some_iff.mp hstep
  obtain ⟨hopen,hnone⟩ : s.emit=some s.topic∧s.status.held s.topic=[]:=horde
  rw[hopen] at htake
  exact ⟨h.positions,h.status.take hnone htake⟩
 | emitStatus=>
  obtain ⟨sts,hemit,rfl⟩:=map_eq_some_iff.mp hstep
  exact ⟨h.positions,h.status.emit hemit⟩
 | exit i=>
  obtain ⟨run,-,rfl⟩:=map_eq_some_iff.mp hstep
  refine ⟨h.positions,?_⟩
  have hsame:(s.cleanup i run).statusData account=s.statusData account:=by
   apply statusData_congr
   intro cl hcl
   exact (horde cl hcl).symm
  rw[hsame]
  exact h.status

/-- The retained payload is the state of the account whenever no publication runs. -/
theorem retained_is_current {events:List Event}
 (horderly:Along (AccountStream.step account) (System.Orderly account) {} events)
 (hrun:run (AccountStream.step account) {} events=some s):
 (s.positions.publications=[] → ∀ rows,s.positions.retained=some rows→ rows=s.positionList account)∧
  (s.status.publications=[] → ∀ data,s.status.retained=some data→ data=s.statusData account):=by
 have hnil:System.Settling account {}:=⟨Channel.settling_empty _ _,Channel.settling_empty _ _⟩
 have hset:=invariant_along (System.Settling account) (fun _ _ _ h hok=>h.step hok) hnil horderly hrun
 exact ⟨fun hover rows=>hset.positions.retained_eq hover,fun hover data=>hset.status.retained_eq hover⟩

namespace Scenario

def published:List Event:=
 [.start,.load perp [{nativeSymbol:="BTCUSDT",quantity:={coefficient:=2}}],
  .bindPositions 0,.readPositions 0,.emitPositions 0,.report 0 .active,.readStatus 0,.emitStatus 0,
  .report 1 .active,.fail 0,.readStatus 0,.emitStatus 0,.fail 1,.readStatus 1,.emitStatus 1,.readStatus 0,
  .emitStatus 0,.exit 0]

def failed:List Event:=
 [.start,.report 0 .active,.report 1 .active,.readStatus 0,.emitStatus 0,.readStatus 0,.emitStatus 0,.fail 1,
  .readStatus 0,.emitStatus 0,.exit 0]

end Scenario

theorem retained_is_current_binance :
 Along (AccountStream.step Scenario.binance) (System.Orderly Scenario.binance) {} Scenario.published∧
  ∃ s rows,run (AccountStream.step Scenario.binance) {} Scenario.published=some s∧
   s.positions.publications=[]∧s.status.publications=[]∧s.positions.retained=some rows∧
   rows=s.positionList Scenario.binance∧rows≠[]:=by
 have horde:Along (AccountStream.step Scenario.binance) (System.Orderly Scenario.binance) {} Scenario.published:=by
  decide
 have h:∃ s rows,run (AccountStream.step Scenario.binance) {} Scenario.published=some s∧
   s.positions.publications=[]∧s.status.publications=[]∧s.positions.retained=some rows∧rows≠[]:=
  ⟨_,_,rfl,by decide,by decide,rfl,by decide⟩
 obtain ⟨s,rows,hrun,hps,hst,hret,hrows⟩:=h
 exact ⟨horde,s,rows,hrun,hps,hst,hret,(retained_is_current horde hrun).1 hps rows hret,hrows⟩

theorem stale_status_after_failure :
 ∃ s data,run (AccountStream.step Scenario.binance) {} Scenario.failed=some s∧
  s.positions.publications=[]∧s.status.publications=[]∧s.status.retained=some data∧
  data.markets=[("binance:perp:USDT",true),("binance:spot",false)]∧data≠s.statusData Scenario.binance:=
 ⟨_,_,rfl,by decide,by decide,rfl,by decide,by decide⟩

end BolterTrader.AccountStream
