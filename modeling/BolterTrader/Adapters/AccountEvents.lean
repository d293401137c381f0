import BolterTrader.Exchange.Accounts
import BolterTrader.Foundations.Collections
import BolterTrader.Foundations.Fallible
import BolterTrader.Foundations.KeyedRows
import Mathlib.Data.List.Dedup

/-! From a venue's account stream to the events of one instrument
(`private_websocket.go`, `account_websocket.go`): the positions of a backend event
are grouped by the instrument their native names resolve to. -/
namespace BolterTrader.Adapters
open Foundations Foundations.Fallible Foundations.KeyedRows Exchange List Option

structure AccountInstrument where
 instrumentId:String
 instrument:Instrument

structure AccountInstrumentIndex where
 byNative:List (String×String)
 noBlank:∀ entry∈byNative,entry.1≠""

namespace AccountInstrumentIndex

def lookup (index:AccountInstrumentIndex) (native:String):Option String:=
 (last? Prod.fst index.byNative native).map Prod.snd

def resolve (index:AccountInstrumentIndex) (nativeSymbol nativeId:String):Option String:=
 (index.lookup (GoText.trimSpace nativeId)).or (index.lookup (GoText.trimSpace nativeSymbol))

def add (index:AccountInstrumentIndex) (item:AccountInstrument) (native:String):
 Except String AccountInstrumentIndex:=
 if h : GoText.trimSpace native="" then .ok index
 else do
  refuse (∃ id∈index.lookup (GoText.trimSpace native),id≠item.instrumentId)
   "account event native identity is ambiguous"
  return {
   byNative:=put Prod.fst index.byNative (GoText.trimSpace native,item.instrumentId)
   noBlank:=by
    intro entry hentry
    obtain hold | hnew:=List.mem_append.mp hentry
    · exact index.noBlank entry (List.mem_of_mem_filter hold)
    · rw[List.mem_singleton.mp hnew]
      exact h}

def ofInstruments (venue:Venue) (product:Product) (instruments:List AccountInstrument):
  Except String AccountInstrumentIndex:=do
 let index ← instruments.foldlM (fun index item=>do
  let identity:=item.instrument.identity
  refuse (item.instrumentId=""∨item.instrument.validate.isSome∨identity.venue≠venue∨
   identity.product≠product) "account event catalog is invalid"
  let index ← index.add item identity.nativeSymbol
  index.add item identity.nativeId) ⟨[],by simp⟩
 refuse (index.byNative=[]) "account instrument index is unavailable"
 return index

structure Entered (item:AccountInstrument) (index:AccountInstrumentIndex):Prop where
 valid:item.instrument.validate=none
 bySymbol:index.lookup (GoText.trimSpace item.instrument.identity.nativeSymbol)=some item.instrumentId
 byId:GoText.trimSpace item.instrument.identity.nativeId≠"" →
  index.lookup (GoText.trimSpace item.instrument.identity.nativeId)=some item.instrumentId

variable {index:AccountInstrumentIndex}

theorem lookup_of_put {next:AccountInstrumentIndex} {nat id:String}
 (h:next.byNative=put Prod.fst index.byNative (nat,id)) (name:String):
 next.lookup name=if nat=name then some id else index.lookup name:=by
 rw[lookup,h,last?_put,lookup]
 split<;>rfl

theorem add_eq_ok {next:AccountInstrumentIndex} {item:AccountInstrument} {nat:String}
 (h:index.add item nat=.ok next):
 (∀ name id,index.lookup name=some id→ next.lookup name=some id)∧
 (GoText.trimSpace nat≠"" → next.lookup (GoText.trimSpace nat)=some item.instrumentId):=by
 unfold add at h
 split at h
 · grind
 · obtain ⟨_,hcle,h⟩:=bind_eq_ok h
   cases h
   refine ⟨?_,?_⟩
   · intro name id hold
     rw[lookup_of_put rfl]
     split
     · next hname=>
       subst hname
       by_contra hoth
       exact refuse_eq_ok hcle ⟨id,hold,fun heq=>hoth (congrArg some heq.symm)⟩
     · exact hold
   · intro _
     rw[lookup_of_put rfl,if_pos rfl]

theorem ofInstruments_eq_ok {venue:Venue} {prod:Product} {inss:List AccountInstrument}
 (h:ofInstruments venue prod inss=.ok index):∀ item∈inss,Entered item index:=by
 obtain ⟨blt,hbui,h⟩:=bind_eq_ok h
 obtain ⟨_,-,h⟩:=bind_eq_ok h
 cases h
 refine (foldlM_eq_ok ?_ ?_ hbui).2
 · intro bef item aft haf
   obtain ⟨_,hval,haf⟩:=bind_eq_ok haf
   obtain ⟨btw,hbet,haf⟩:=bind_eq_ok haf
   have hchk:=refuse_eq_ok hval
   simp only[not_or,Bool.not_eq_true,isSome_eq_false_iff,isNone_iff_eq_none] at hchk
   have hnam:GoText.trimSpace item.instrument.identity.nativeSymbol≠"" := by
    grind [Instrument.native_trimmed_of_validate,Instrument.nativeSymbol_ne_of_validate]
   exact ⟨hchk.2.1,(add_eq_ok haf).1 _ _ ((add_eq_ok hbet).2 hnam),(add_eq_ok haf).2⟩
 · intro bef item aft oth haf hoth
   obtain ⟨_,-,haf⟩:=bind_eq_ok haf
   obtain ⟨btw,hbet,haf⟩:=bind_eq_ok haf
   have hkept (name id:String) (hold:bef.lookup name=some id):aft.lookup name=some id:=
    (add_eq_ok haf).1 _ _ ((add_eq_ok hbet).1 _ _ hold)
   exact ⟨hoth.valid,hkept _ _ hoth.bySymbol,fun hne=>hkept _ _ (hoth.byId hne)⟩

@[simp] theorem lookup_blank (index:AccountInstrumentIndex):index.lookup "" = none:=by
 rw[lookup,map_eq_none_iff,last?_eq_none_iff]
 exact index.noBlank

@[simp] theorem resolve_blank (index:AccountInstrumentIndex):index.resolve "" "" = none:=by
 have hbla:GoText.trimSpace "" = "" := by decide
 simp[resolve,hbla]

end AccountInstrumentIndex

/-! ## Position events -/

structure PositionBackendEvent where
 nativeSymbol:String:=""
 nativeId:String:=""
 event:PositionEvent

def resolvePosition (index:AccountInstrumentIndex) (position:Position):Except String (String×Position):=do
 let id ← required "account position native instrument is unknown"
  (index.resolve position.nativeSymbol position.nativeId)
 return (id,position)

def projectPositionEvent (order:RangeOrder) (index:AccountInstrumentIndex) (backend:PositionBackendEvent):
  Except String (List (String×PositionEvent)):=do
 let items ← backend.event.positions.mapM (resolvePosition index)
 if items=[] then
  let id ← required "empty account position event has no native instrument"
   (index.resolve backend.nativeSymbol backend.nativeId)
  return [(id,{backend.event with positions:=[]})]
 else
  return (order.visit (items.map Prod.fst).dedup).map fun id=>
   (id,{backend.event with positions:=(items.filter fun item=>item.1=id).map Prod.snd})

variable {index:AccountInstrumentIndex}

theorem resolvePosition_eq_ok {position:Position} {item:String×Position}
 (h:resolvePosition index position=.ok item):
 item.2=position∧index.resolve position.nativeSymbol position.nativeId=some item.1:=by
 obtain ⟨id,hid,h⟩:=bind_eq_ok h
 cases h
 exact ⟨rfl,required_eq_ok hid⟩

variable {items:List (String×Position)}

theorem mapM_resolvePosition {poss:List Position} (h:poss.mapM (resolvePosition index)=.ok items):
 items.map Prod.snd=poss∧
  ∀ item∈items,index.resolve item.2.nativeSymbol item.2.nativeId=some item.1:=by
 have heach:=mapM_eq_ok_iff.mp h
 clear h
 induction heach with
 | nil=>simp
 | cons hitem _ ih=>
  obtain ⟨rfl,hres⟩:=resolvePosition_eq_ok hitem
  grind

theorem items_nil_iff {poss:List Position} (h:items.map Prod.snd=poss):
 items=[] ↔ poss=[]:=by
 rw[←h,map_eq_nil_iff]

theorem filter_items (hres:∀ item∈items,index.resolve item.2.nativeSymbol item.2.nativeId=some item.1)
 (id:String):
 (items.filter fun item=>item.1=id).map Prod.snd =
  (items.map Prod.snd).filter fun row=>index.resolve row.nativeSymbol row.nativeId=some id:=by
 rw[List.filter_map]
 refine congrArg _ (filter_congr fun item hitem=>?_)
 simp[hres item hitem]

variable {order:RangeOrder} {backend:PositionBackendEvent} {events:List (String×PositionEvent)}

theorem projectPositionEvent_groups (h:projectPositionEvent order index backend=.ok events)
 (hne:backend.event.positions≠[]):
 (events.map Prod.fst).Nodup∧
 (∀ told∈events,told.2.positions≠[]∧told.2 = {backend.event with
  positions:=backend.event.positions.filter fun row=>
   index.resolve row.nativeSymbol row.nativeId=some told.1})∧
 (events.flatMap fun told=>told.2.positions).Perm backend.event.positions:=by
 obtain ⟨items,hit,h⟩:=bind_eq_ok h
 obtain ⟨hps,hres⟩:=mapM_resolvePosition hit
 rw[if_neg (mt (items_nil_iff hps).mp hne)] at h
 cases h
 have hids:(order.visit (items.map Prod.fst).dedup).Nodup:=(order.perm _).nodup_iff.mpr (nodup_dedup _)
 have hmem {item:String×Position} (hitem:item∈items):
   item.1∈order.visit (items.map Prod.fst).dedup:=
  order.mem_visit.mpr (mem_dedup.mpr (mem_map_of_mem hitem))
 refine ⟨?_,?_,?_⟩
 · grind
 · intro told htold
   obtain ⟨id,hid,rfl⟩:=mem_map.mp htold
   refine ⟨?_,?_⟩
   · obtain ⟨item,hitem,rfl⟩:=mem_map.mp (mem_dedup.mp (order.mem_visit.mp hid))
     have hin:item∈items.filter fun oth=>oth.1=item.1:=mem_filter.mpr ⟨hitem,by simp⟩
     exact ne_nil_of_mem (mem_map_of_mem hin)
   · rw[←hps,←filter_items hres id]
 · rw[flatMap_map]
   have hgro:=(perm_flatMap_filter Prod.fst hids fun _ hitem=>hmem hitem).map Prod.snd
   rw[map_flatMap,hps] at hgro
   exact hgro

theorem projectPositionEvent_of_empty (h:projectPositionEvent order index backend=.ok events)
 (hnil:backend.event.positions=[]):
 ∃ id,index.resolve backend.nativeSymbol backend.nativeId=some id∧events=[(id,backend.event)]:=by
 obtain ⟨items,hit,h⟩:=bind_eq_ok h
 rw[if_pos ((items_nil_iff (mapM_resolvePosition hit).1).mpr hnil)] at h
 obtain ⟨id,hid,h⟩:=bind_eq_ok h
 cases h
 refine ⟨id,required_eq_ok hid,?_⟩
 rw[←hnil]

theorem projectPositionEvent_eq_ok {id:String} {ev:PositionEvent}
 (h:projectPositionEvent order index backend=.ok events) (hmem:(id,ev)∈events):
 ev.kind=backend.event.kind∧
 (∀ position∈ev.positions,position∈backend.event.positions∧
  index.resolve position.nativeSymbol position.nativeId=some id)∧
 (backend.event.positions≠[]→ ev.positions≠[]):=by
 by_cases hnil:backend.event.positions=[]
 · grind [projectPositionEvent_of_empty]
 · obtain ⟨hne,hev⟩:=(projectPositionEvent_groups h hnil).2.1 _ hmem
   grind

theorem projectPositionEvent_same (order:RangeOrder) {id:String} {nativeSymbol nativeId:String}
 {event:PositionEvent} (hne:event.positions≠[])
 (hid:∀ position∈event.positions,index.resolve position.nativeSymbol position.nativeId=some id):
 projectPositionEvent order index {nativeSymbol,nativeId,event}=.ok [(id,event)]:=by
 have hit:event.positions.mapM (resolvePosition index)=.ok (event.positions.map fun p=>(id,p)):=by
  rw[mapM_eq_ok_iff,forall₂_map_right_iff,forall₂_same]
  intro position hpos
  simp only[resolvePosition,hid position hpos]
  rfl
 have hids:((event.positions.map fun p=>(id,p)).map Prod.fst).dedup=[id]:=by
  have hrep:(event.positions.map fun p=>(id,p)).map Prod.fst =
    List.replicate event.positions.length id:=by
   simp[Function.comp_def]
  rw[hrep,replicate_dedup]
  grind
 have hsome:(event.positions.map fun p=>(id,p))≠[]:=by simpa using hne
 have how:((event.positions.map fun p=>(id,p)).filter fun item=>item.1=id).map Prod.snd =
   event.positions:=by
  rw[filter_eq_self.mpr (by simp),List.map_map]
  exact map_id _
 unfold projectPositionEvent
 rw[hit]
 simp only[bind,Except.bind,if_neg hsome,hids,order.visit_singleton,map_singleton,how]
 rfl

theorem projectPositionEvent_empty (order:RangeOrder) (index:AccountInstrumentIndex) (kind:EventKind):
  projectPositionEvent order index {event:={kind,positions:=[]}} =
   .error "empty account position event has no native instrument" := by
 simp[projectPositionEvent,bind,Except.bind,pure,Except.pure,required]

/-! ## Account events -/

inductive AccountEventKind where
 | order | fill | balance | position | other (name:String)

structure AccountBackendEvent where
 kind:AccountEventKind
 nativeSymbol:String:=""
 nativeId:String:=""
 order:Option OrderEvent:=none
 fill:Option FillEvent:=none
 balance:Option BalanceEvent:=none
 position:Option PositionEvent:=none

structure AccountEvent where
 kind:AccountEventKind
 instrumentId:String:=""
 order:Option OrderEvent:=none
 fill:Option FillEvent:=none
 balance:Option BalanceEvent:=none
 position:Option PositionEvent:=none

def projectAccountBackendEvent (order:RangeOrder) (index:AccountInstrumentIndex) (event:AccountBackendEvent):
 Except String (List AccountEvent):=
 match event.kind with
 | .order=>do
  let payload ← required "account order event payload is missing" event.order
  let id ← required "account order native instrument is unknown"
   (index.resolve payload.order.nativeSymbol payload.order.nativeId)
  return [{kind:=event.kind,instrumentId:=id,order:=payload}]
 | .fill=>do
  let payload ← required "account fill event payload is missing" event.fill
  let id ← required "account fill native instrument is unknown"
   (index.resolve payload.fill.nativeSymbol payload.fill.nativeId)
  return [{kind:=event.kind,instrumentId:=id,fill:=payload}]
 | .balance=>do
  let payload ← required "account balance event payload is missing" event.balance
  return [{kind:=event.kind,balance:=payload}]
 | .position=>do
  let payload ← required "account position event payload is missing" event.position
  let told ← projectPositionEvent order index ⟨event.nativeSymbol,event.nativeId,payload⟩
  return told.map fun item=>{kind:=event.kind,instrumentId:=item.1,position:=some item.2}
 | .other _=>.error "account event kind is unsupported"

def AccountEvent.rows (event:AccountEvent):List Position:=(event.position.map (·.positions)).getD []

def rowsOf (index:AccountInstrumentIndex) (id:String) (rows:List Position):List Position:=
 rows.filter fun row=>index.resolve row.nativeSymbol row.nativeId=some id

theorem projectAccountBackendEvent_position {backend:AccountBackendEvent} (hkind:backend.kind=.position)
 {events:List AccountEvent} (h:projectAccountBackendEvent order index backend=.ok events):
 ∃ pld told,backend.position=some pld∧
  projectPositionEvent order index ⟨backend.nativeSymbol,backend.nativeId,pld⟩=.ok told∧
  events=told.map fun item=>{kind:=.position,instrumentId:=item.1,position:=some item.2}:=by
 simp only[projectAccountBackendEvent,hkind] at h
 obtain ⟨pld,hpay,h⟩:=bind_eq_ok h
 obtain ⟨told,htold,h⟩:=bind_eq_ok h
 cases h
 exact ⟨pld,told,required_eq_ok hpay,htold,rfl⟩

/-- Every row of an event goes to the event of its own instrument. -/
theorem position_rows_partitioned (order:RangeOrder) (index:AccountInstrumentIndex)
 (backend:AccountBackendEvent) (hkind:backend.kind=.position):
 (∃ err,projectAccountBackendEvent order index backend=.error err)∨
 ∃ payload events,backend.position=some payload∧
  projectAccountBackendEvent order index backend=.ok events∧
  (events.map (·.instrumentId)).Nodup∧
  (∀ event∈events,event =
   { kind:=.position,instrumentId:=event.instrumentId
     position:=some {payload with positions:=rowsOf index event.instrumentId payload.positions}})∧
  (events.flatMap (·.rows)).Perm payload.positions∧
  (payload.positions≠[] → ∀ event∈events,event.rows≠[])∧
  (payload.positions=[] → ∃ id,index.resolve backend.nativeSymbol backend.nativeId=some id∧
   events=[{kind:=.position,instrumentId:=id,position:=some payload}]):=by
 cases heve : projectAccountBackendEvent order index backend with
 | error err=>exact .inl ⟨err,rfl⟩
 | ok=>
  obtain ⟨payload,told,hpay,htold,rfl⟩:=projectAccountBackendEvent_position hkind heve
  refine .inr ⟨payload,_,hpay,rfl,?_⟩
  by_cases hnil:payload.positions=[]
  · obtain ⟨id,hid,rfl⟩:=projectPositionEvent_of_empty htold hnil
    have hpay: {payload with positions:=[]}=payload:=by rw[←hnil]
    refine ⟨by simp,?_,?_,fun hne=>absurd hnil hne,fun _=>⟨id,hid,rfl⟩⟩
    · simp[rowsOf,hnil,hpay]
    · simp[AccountEvent.rows,hnil]
  · obtain ⟨hnd,hgro,hperm⟩:=projectPositionEvent_groups htold hnil
    refine ⟨?_,?_,?_,?_,fun h=>absurd h hnil⟩
    · grind
    · intro event hev
      obtain ⟨item,hitem,rfl⟩:=mem_map.mp hev
      simp only[AccountEvent.mk.injEq,some.injEq,true_and]
      exact (hgro item hitem).2
    · rw[flatMap_map]
      exact hperm
    · intro _ event hev
      obtain ⟨item,hitem,rfl⟩:=mem_map.mp hev
      exact (hgro item hitem).1

namespace Scenario

def twoInstruments:AccountInstrumentIndex:=⟨[("BTC_USDT","btc"),("ETH_USDT","eth")],by decide⟩

def threeRows:AccountBackendEvent:=
 { kind:=.position
   position:=some
    { kind:=.delta
      positions:=[{nativeSymbol:="BTC_USDT",positionSlot:=.long},{nativeSymbol:="ETH_USDT" },
       {nativeSymbol:="BTC_USDT",positionSlot:=.short}]}}

end Scenario

theorem three_rows_partitioned :
 ∃ events,projectAccountBackendEvent .listed Scenario.twoInstruments Scenario.threeRows=.ok events∧
  events.map (fun event=>(event.instrumentId,event.rows.map (·.positionSlot))) =
   [("eth",[.unset]),("btc",[.long,.short])]∧
  (events.map (·.instrumentId)).Nodup:=by
 have hok:(projectAccountBackendEvent .listed Scenario.twoInstruments Scenario.threeRows).toBool=true:=by decide
 obtain ⟨err,herr⟩ | ⟨payload,events,-,heve,hnd,-⟩:=
  position_rows_partitioned .listed Scenario.twoInstruments Scenario.threeRows rfl
 · rw[herr] at hok
   cases hok
 · refine ⟨events,heve,?_,hnd⟩
   cases heve
   decide

end BolterTrader.Adapters
