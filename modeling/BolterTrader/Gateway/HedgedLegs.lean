import BolterTrader.Adapters.AsterAccount
import BolterTrader.Adapters.GateAccount
import BolterTrader.Gateway.Positions

/-! The two legs of a hedged contract on Gate and Aster. -/
namespace BolterTrader.Gateway
open Foundations Foundations.Fallible Foundations.KeyedRows Exchange Adapters List

inductive Produced : Position→Prop
 | gateQuery {client:ClientMeta} {catalog:Option (String→Except NativeError Instrument)}
  {request:Option Instrument} {answer:Except NativeError (List Gate.PositionRow)}
  {listed:List Position} {position:Position}
  (hlisted:Gate.positions client catalog request answer=.ok listed) (hmem:position∈listed):
  Produced position
 | gateStream {metas:String→Option (Instrument×Decimal)} {message:Except String (List Gate.PositionRow)}
  {backend:PositionBackendEvent} {position:Position}
  (hsent:backend∈(Gate.handlePositions metas message).1) (hmem:position∈backend.event.positions):
  Produced position
 | asterStream {conversionError:String→String} {rows:List Aster.PositionRow}
  {backend:PositionBackendEvent} {position:Position}
  (hsent:Aster.handleAccountUpdate conversionError rows=.ok (some backend))
  (hmem:position∈backend.event.positions):Produced position

inductive Sent : PositionBackendEvent→Prop
 | gate {metas:String→Option (Instrument×Decimal)} {message:Except String (List Gate.PositionRow)}
  {backend:PositionBackendEvent} (hsent:backend∈(Gate.handlePositions metas message).1):Sent backend
 | aster {conversionError:String→String} {rows:List Aster.PositionRow} {backend:PositionBackendEvent}
  (hsent:Aster.handleAccountUpdate conversionError rows=.ok (some backend)):Sent backend

/-! ## Slots -/

theorem slot_gateQuery {cl:ClientMeta} {cat1:Option (String→Except NativeError Instrument)}
 {req:Option Instrument} {ans:Except NativeError (List Gate.PositionRow)}
 {lst:List Position} (h:Gate.positions cl cat1 req ans=.ok lst):
 ∀ position∈lst,position.positionSlot=.unset:=by
 obtain ⟨rows,-,h⟩:=bind_eq_ok h
 obtain ⟨rqs,-,h⟩:=bind_eq_ok (past h)
 obtain ⟨cnv,hcon,h⟩:=bind_eq_ok h
 cases h
 intro position hpos
 obtain ⟨row,-,hrow⟩:=exists_of_mem_mapM hcon (reduceOption_mem_iff.mp hpos)
 unfold Gate.listedPosition at hrow
 split at hrow
 · cases hrow
 · obtain ⟨ins,-,hrow⟩:=bind_eq_ok hrow
   obtain ⟨mlt,-,hrow⟩:=bind_eq_ok hrow
   cases hrow
   rfl

theorem positionEvents_spec {mts:String→Option (Instrument×Decimal)} {rows:List Gate.PositionRow}
 {bk:PositionBackendEvent} (h:bk∈(Gate.positionEvents mts rows).1):
 ∃ position,bk.event = {kind:=.delta,positions:=[position]}∧position.positionSlot=.unset:=by
 induction rows with
 | nil=>cases h
 | cons row rest ih=>
  unfold Gate.positionEvents at h
  split at h
  · cases h
  · obtain rfl | h:=mem_cons.mp h
    · exact ⟨_,rfl,rfl⟩
    · exact ih h

theorem slot_updatedPosition {cer:String→String} {row:Aster.PositionRow} {position:Position}
 (h:Aster.updatedPosition cer row=.ok position):position.positionSlot=.unset:=by
 obtain ⟨qty,-,h⟩:=bind_eq_ok h
 obtain ⟨epr,-,h⟩:=bind_eq_ok h
 obtain ⟨upn,-,h⟩:=bind_eq_ok h
 cases h
 rfl

theorem Sent.spec {bk:PositionBackendEvent} (h:Sent bk):
 bk.event.kind=.delta∧bk.event.positions≠[]∧
  ∀ position∈bk.event.positions,position.positionSlot=.unset:=by
 cases h with
 | @gate mts msg _ hsent=>
  unfold Gate.handlePositions at hsent
  split at hsent
  · cases hsent
  · grind [positionEvents_spec]
 | aster hsent=>
  obtain ⟨poss,hps,hsent⟩:=bind_eq_ok hsent
  split at hsent
  · cases hsent
  · rename_i hne
    cases hsent
    refine ⟨rfl,hne,?_⟩
    intro position hpos
    obtain ⟨row,-,hrow⟩:=exists_of_mem_mapM hps hpos
    exact slot_updatedPosition hrow

theorem Produced.slot {position:Position} (h:Produced position):position.positionSlot=.unset:=by
 cases h with
 | gateQuery hlis hmem=>exact slot_gateQuery hlis position hmem
 | gateStream hsent hmem=>exact (Sent.gate hsent).spec.2.2 position hmem
 | asterStream hsent hmem=>exact (Sent.aster hsent).spec.2.2 position hmem

/-! ## A delta about one leg -/

theorem mem_foldPositions {sort:SliceSort positionLess} {rows:List PositionRow} {id:String}
 {ev:PositionEvent} {row:PositionRow}:row∈foldPositions sort rows id ev ↔
  row∈rows∧keepsKey id ev row.key=true∨∃ position∈ev.positions,projectPosition id position=some row:=by
 unfold foldPositions
 rw[(sort.perm _).mem_iff,mem_append,mem_filter,mem_filterMap]
 rfl

theorem not_mem_foldPositions {sort:SliceSort positionLess} {rows:List PositionRow} {id:String}
 {event:PositionEvent} {row:PositionRow} {position:Position} (hpos:position∈event.positions)
 (hkey:row.key=(id,position.positionSlot))
 (hcar:∀ oth∈event.positions,projectPosition id oth≠some row):
 row∉foldPositions sort rows id event:=by
 rw[mem_foldPositions]
 rintro (⟨-,hkept⟩ | ⟨oth,hoth,hrow⟩)
 · have hlis:(last? Position.positionSlot event.positions position.positionSlot).isSome:=
    last?_isSome_of_mem hpos
   obtain ⟨fnd,hfd⟩:=Option.isSome_iff_exists.mp hlis
   rw[hkey,keepsKey_listed hfd] at hkept
   exact Bool.false_ne_true hkept
 · exact hcar oth hoth hrow

/-- An event about one leg of a hedged contract loses the other leg. -/
theorem hedged_leg_lost (order:RangeOrder) (sort:SliceSort positionLess) (index:AccountInstrumentIndex)
 (rows:List PositionRow) (stored:Position) (backend:PositionBackendEvent)
 (events:List (String×PositionEvent)) (id:String) (event:PositionEvent) (row:PositionRow)
 (hstored:Produced stored) (hrow:projectPosition id stored=some row) (hsent:Sent backend)
 (hevents:projectPositionEvent order index backend=.ok events) (hevent:(id,event)∈events)
 (hother:∀ position∈event.positions,projectPosition id position≠some row):
 (∀ position∈event.positions,position.positionSlot=stored.positionSlot)∧
  row∉foldPositions sort rows id event:=by
 obtain ⟨-,hsome,hslots⟩:=hsent.spec
 obtain ⟨-,hcar,hne⟩:=projectPositionEvent_eq_ok hevents hevent
 have hsame:∀ position∈event.positions,position.positionSlot=stored.positionSlot:=by
  intro position hpos
  rw[hslots position (hcar position hpos).1,hstored.slot]
 refine ⟨hsame,?_⟩
 obtain ⟨position,hpos⟩:=exists_mem_of_ne_nil _ (hne hsome)
 apply not_mem_foldPositions hpos ?_ hother
 rw[key_of_projectPosition stored row hrow,hsame position hpos]

/-! ## A hedged contract on Gate -/

def gateIndex:AccountInstrumentIndex:=⟨[("BTC_USDT","gate:perp:BTC_USDT")],by decide⟩

def queriedLegs:List Position:=
 [Gate.gatePosition Gate.btcUsdt ⟨1,-4⟩ {contract:="BTC_USDT",size:=50000},
  Gate.gatePosition Gate.btcUsdt ⟨1,-4⟩ {contract:="BTC_USDT",size:=-30000}]

def grownLong:PositionBackendEvent:=
 { nativeSymbol:="BTC_USDT"
   event:=
    { kind:=.delta
      positions:=[Gate.gatePosition Gate.btcUsdt ⟨1,-4⟩ {contract:="BTC_USDT",size:=60000}]}}

def hedgedRows:List PositionRow:=
 sortPositions.sort (queriedLegs.filterMap (projectPosition "gate:perp:BTC_USDT"))

theorem queriedLegs_listed:Gate.positions Gate.perp (some fun _=>.ok Gate.btcUsdt) none
 (.ok [{contract:="BTC_USDT",size:=50000},{contract:="BTC_USDT",size:=-30000}])=.ok queriedLegs:=by
 rfl

theorem grownLong_sent:Gate.handlePositions (fun _=>some (Gate.btcUsdt,⟨1,-4⟩))
 (.ok [{contract:="BTC_USDT",size:=60000}])=([grownLong],none):=by
 rfl

theorem grownLong_projected :
 projectPositionEvent .listed gateIndex grownLong=.ok [("gate:perp:BTC_USDT",grownLong.event)]:=by
 rfl

theorem short_leg_vanishes :
 Gate.positions Gate.perp (some fun _=>.ok Gate.btcUsdt) none
  (.ok [{contract:="BTC_USDT",size:=50000},{contract:="BTC_USDT",size:=-30000}])=.ok queriedLegs∧
 Gate.handlePositions (fun _=>some (Gate.btcUsdt,⟨1,-4⟩)) (.ok [{contract:="BTC_USDT",size:=60000}]) =
  ([grownLong],none)∧
 projectPositionEvent .listed gateIndex grownLong=.ok [("gate:perp:BTC_USDT",grownLong.event)]∧
 hedgedRows.map (fun row=>(row.side,row.size))=[(.long,"5"),(.short,"3")]∧
 (foldPositions sortPositions hedgedRows "gate:perp:BTC_USDT" grownLong.event).map
  (fun row=>(row.side,row.size))=[(.long,"6")]:=
 ⟨queriedLegs_listed,grownLong_sent,grownLong_projected,by decide,by decide⟩

def shortRow:PositionRow:=
 { instrument:="gate:perp:BTC_USDT",side:=.short,size:="3",entryPrice:="0",markPrice:=""
   unrealizedPnl:="0",liquidationPrice:="",leverage:="",margin:="",slot:=.unset}

theorem hedged_leg_lost_short:shortRow∈hedgedRows∧
 shortRow∉foldPositions sortPositions hedgedRows "gate:perp:BTC_USDT" grownLong.event:=by
 have hsent:grownLong∈(Gate.handlePositions (fun _=>some (Gate.btcUsdt,⟨1,-4⟩))
   (.ok [{contract:="BTC_USDT",size:=60000}])).1:=by
  rw[grownLong_sent]
  exact mem_singleton_self _
 refine ⟨by decide,?_⟩
 exact (hedged_leg_lost .listed sortPositions gateIndex hedgedRows
  (Gate.gatePosition Gate.btcUsdt ⟨1,-4⟩ {contract:="BTC_USDT",size:=-30000}) grownLong _
  "gate:perp:BTC_USDT" grownLong.event shortRow (.gateQuery queriedLegs_listed (by decide)) (by decide)
  (.gate hsent) grownLong_projected (mem_singleton_self _) (by decide)).2

end BolterTrader.Gateway
