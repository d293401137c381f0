import BolterTrader.Adapters.AccountEvents
import BolterTrader.ExactLookup.Hyperliquid
import BolterTrader.ExactLookup.Lighter

/-! The positions of the Lighter and the Hyperliquid account streams (`StartAccountEvents`
in `lighter_private_websocket.go` and `hyperliquid_private_websocket.go`): a message lists
the rows of all markets, each row is told as a snapshot of its instrument, and a market
that the message no longer holds is told without positions. -/
namespace BolterTrader.Adapters.PositionSnapshots
open Foundations Foundations.Fallible Foundations.KeyedRows Exchange List
open ExactLookup (Library)
open ExactLookup.Lighter (lighterNonNegativeDecimal)
open ExactLookup.Hyperliquid (hlDecimal?)

/-! ## The two handlers -/

structure Feed (κ ρ:Type) where
 market:Instrument→Except String κ
 key:ρ→κ
 unknown:String
 convert:Instrument→ρ→Except String Position
 names:Option Instrument→κ→String×String
 named:∀ {instrument row position},convert instrument row=.ok position →
  position.nativeSymbol=instrument.identity.nativeSymbol∧position.nativeId=instrument.identity.nativeId
 names_eq:∀ {instrument key},market instrument=.ok key →
  names (some instrument) key=(instrument.identity.nativeSymbol,instrument.identity.nativeId)∨
  names (some instrument) key=(instrument.identity.nativeSymbol,"")

structure Handled (κ:Type) where
 events:List AccountBackendEvent
 error:Option String
 previous:List κ

namespace Feed
variable {κ ρ:Type} [DecidableEq κ] (feed:Feed κ ρ)

def start (order:RangeOrder) (items:List AccountInstrument):Except String (List (κ×Instrument)):=
 (order.visit items).mapM fun item=>(feed.market item.instrument).map fun key=>(key,item.instrument)

def meta? (metas:List (κ×Instrument)) (key:κ):Option Instrument:=(last? Prod.fst metas key).map Prod.snd

def convertRow (metas:List (κ×Instrument)) (row:ρ):Except String (κ×Position):=do
 let instrument ← required feed.unknown (meta? metas (feed.key row))
 let position ← feed.convert instrument row
 return (feed.key row,position)

def nonzero (position:Position):List Position:=if position.quantity.isZero then [] else [position]

def snapshot (metas:List (κ×Instrument)) (key:κ) (positions:List Position):AccountBackendEvent:=
 { kind:=.position
   nativeSymbol:=(feed.names (meta? metas key) key).1
   nativeId:=(feed.names (meta? metas key) key).2
   position:=some {kind:=.snapshot,positions}}

def tellRows (order:RangeOrder) (metas:List (κ×Instrument)) (previous:List κ):List ρ→List κ→Handled κ
 | [],current=>
  ⟨((order.visit previous).filter fun key=>key∉current).map fun key=>feed.snapshot metas key [],none,current⟩
 | row::rest,current=>
  match feed.convertRow metas row with
  | .error err=>⟨[],some err,previous⟩
  | .ok (key,position)=>
   let later:=tellRows order metas previous rest
    (if position.quantity.isZero then current else current.insert key)
   {later with events:=feed.snapshot metas key (nonzero position)::later.events}

def openPositions (metas:List (κ×Instrument)) (rows:List ρ):Except String (List Position):=do
 let converted ← rows.mapM (feed.convertRow metas)
 return converted.flatMap fun row=>nonzero row.2

def Clean (metas:List (κ×Instrument)) (rows:List ρ):Prop:=
 (rows.map feed.key).Nodup∧(feed.openPositions metas rows).toBool=true

instance (metas:List (κ×Instrument)) (rows:List ρ):Decidable (feed.Clean metas rows):=
 inferInstanceAs (Decidable (_∧_))

end Feed

/-! ## Lighter -/

namespace Lighter

structure Row where
 marketId:Int
 sign:Int
 position:String:=""
 avgEntryPrice:String:=""
 positionValue:String:=""
 unrealizedPnl:String:=""
 liquidationPrice:String:=""
 allocatedMargin:String:=""

def lighterDecimal (lib:Library) (raw:String):Except String Decimal:=
 if GoText.trimSpace raw="" then .ok .zero else required (lib.decimalError raw) (Decimal.ofString? raw)

def lighterOptional (lib:Library) (raw:String):Except String OptionalDecimal:=
 if GoText.trimSpace raw="" then .ok none else (lighterDecimal lib raw).map some

def lighterPosition (lib:Library) (instrument:Instrument) (row:Row):Except String Position:=do
 refuse (row.sign < -1∨1<row.sign) "position sign must be -1, 0, or 1"
 let size ← lighterNonNegativeDecimal lib row.position
 let quantity : Decimal:=if row.sign<0 then ⟨-size.coefficient,size.exponent⟩ else size
 let entryPrice ← lighterNonNegativeDecimal lib row.avgEntryPrice
 let unrealizedPnl ← lighterDecimal lib row.unrealizedPnl
 let liquidationPrice ← lighterOptional lib row.liquidationPrice
 let marginUsed ← lighterOptional lib row.allocatedMargin
 let value ← lighterNonNegativeDecimal lib row.positionValue
 return {
  nativeSymbol:=instrument.identity.nativeSymbol
  nativeId:=instrument.identity.nativeId
  side:=if row.sign<0 then .sell else .buy
  markPrice:=if quantity.isZero then .zero else value.div quantity.abs
  quantity,entryPrice,unrealizedPnl,liquidationPrice,marginUsed}

theorem lighterPosition_named {lib:Library} {ins:Instrument} {row:Row} {position:Position}
 (h:lighterPosition lib ins row=.ok position):
 position.nativeSymbol=ins.identity.nativeSymbol∧position.nativeId=ins.identity.nativeId:=by
 obtain ⟨_,-,h⟩:=bind_eq_ok h
 obtain ⟨_,-,h⟩:=bind_eq_ok h
 obtain ⟨_,-,h⟩:=bind_eq_ok h
 obtain ⟨_,-,h⟩:=bind_eq_ok h
 obtain ⟨_,-,h⟩:=bind_eq_ok h
 obtain ⟨_,-,h⟩:=bind_eq_ok h
 obtain ⟨_,-,h⟩:=bind_eq_ok h
 cases h
 exact ⟨rfl,rfl⟩

def nativeNames (instrument:Instrument):String×String:=
 (instrument.identity.nativeSymbol,instrument.identity.nativeId)

def feed (lib:Library):Feed Int Row where
 market instrument:=
  required "invalid Lighter native market id" ((Decimal.parseInt64? instrument.identity.nativeId).filter (0 ≤ ·))
 key:=Row.marketId
 unknown:="lighter account position instrument is unknown"
 convert instrument row:=(lighterPosition lib instrument row).mapError fun _ => "Lighter websocket payload is malformed"
 names found _:=(found.map nativeNames).getD ("","")
 named h:=lighterPosition_named (mapError_eq_ok h)
 names_eq _:=.inl rfl

def rows (order:RangeOrder) (positions:List (Option Row)):List Row:=(order.visit positions).filterMap id

def handle (lib:Library) (order:RangeOrder) (metas:List (Int×Instrument)) (previous:List Int)
 (positions:List (Option Row)):Handled Int:=
 (feed lib).tellRows order metas previous (rows order positions) []

end Lighter

/-! ## Hyperliquid -/

namespace Hyperliquid

structure Row where
 coin:String
 szi:String:=""
 positionValue:String:=""
 entryPx:String:=""
 unrealizedPnl:String:=""
 liquidationPx:String:=""
 marginUsed:String:=""
 leverage:Int:=0

structure PerpPosition where
 assetPositions:List Row:=[]
 accountValue:String:=""
 withdrawable:String:=""
 time:Int:=0

def hlNonNegative? (text:String):Option Decimal:=(hlDecimal? text).filter fun d=>!d.isNegative

def hlOptionalNonNegative (err text:String):Except String OptionalDecimal:=
 if GoText.trimSpace text="" then .ok none else (required err (hlNonNegative? text)).map some

def hlPosition (instrument:Instrument) (row:Row):Except String Position:=do
 let nativeSymbol:=instrument.identity.nativeSymbol
 let nativeId:=instrument.identity.nativeId
 let quantity ← required "invalid position size" (hlDecimal? row.szi)
 if quantity.isZero then return {nativeSymbol,nativeId}
 let value ← required "invalid position value" ((hlDecimal? row.positionValue).filter Decimal.isPositive)
 let markPrice:=value.div quantity.abs
 refuse (!markPrice.isPositive) "invalid mark price"
 let entryPrice ← required "invalid entry price" (hlNonNegative? row.entryPx)
 let unrealizedPnl ← required "invalid unrealized pnl" (hlDecimal? row.unrealizedPnl)
 let liquidationPrice ← hlOptionalNonNegative "invalid liquidation price" row.liquidationPx
 let marginUsed ← hlOptionalNonNegative "invalid margin used" row.marginUsed
 return {
  nativeSymbol,nativeId,quantity,entryPrice,markPrice,unrealizedPnl,liquidationPrice,marginUsed
  side:=if quantity.isNegative then .sell else .buy
  leverage:=if 0<row.leverage then some (.ofInt row.leverage) else none}

theorem hlPosition_named {ins:Instrument} {row:Row} {position:Position}
 (h:hlPosition ins row=.ok position):
 position.nativeSymbol=ins.identity.nativeSymbol∧position.nativeId=ins.identity.nativeId:=by
 obtain ⟨_,-,h⟩:=bind_eq_ok h
 split at h
 · cases h
   exact ⟨rfl,rfl⟩
 · obtain ⟨_,-,h⟩:=bind_eq_ok h
   obtain ⟨_,-,h⟩:=bind_eq_ok h
   obtain ⟨_,-,h⟩:=bind_eq_ok h
   obtain ⟨_,-,h⟩:=bind_eq_ok h
   obtain ⟨_,-,h⟩:=bind_eq_ok h
   obtain ⟨_,-,h⟩:=bind_eq_ok h
   cases h
   exact ⟨rfl,rfl⟩

def hyperliquidPerpBalanceEvent (state:PerpPosition):Except String BalanceEvent:=do
 let available ← required "invalid withdrawable balance" (hlNonNegative? state.withdrawable)
 let total ← required "invalid account value" (hlNonNegative? state.accountValue)
 let locked:=total.sub available
 refuse locked.isNegative "withdrawable exceeds account value"
 refuse (state.time≤0) "invalid clearinghouse state time"
 return {kind:=.snapshot,balances:=[{asset:="USDC",available,locked,total}]}

def feed:Feed String Row where
 market instrument:=.ok instrument.identity.nativeSymbol
 key:=Row.coin
 unknown:="hyperliquid account position instrument is unknown"
 convert:=hlPosition
 names _ coin:=(coin,"")
 named:=hlPosition_named
 names_eq h:=.inr (by rw[Except.ok.inj h])

def handle (order:RangeOrder) (metas:List (String×Instrument)) (previous:List String) (state:PerpPosition):
 Handled String:=
 match hyperliquidPerpBalanceEvent state with
 | .error err=>⟨[],some err,previous⟩
 | .ok balance=>
  let told:=feed.tellRows order metas previous state.assetPositions []
  {told with events:={kind:=.balance,balance:=some balance}::told.events}

end Hyperliquid

/-! ## The folded positions -/

def hold (held:String→List Position) (event:AccountEvent):String→List Position:=
 match event.position with
 | some payload=>if payload.kind=.snapshot then Function.update held event.instrumentId payload.positions else held
 | none=>held

def tell (order:RangeOrder) (index:AccountInstrumentIndex) (held:String→List Position)
 (event:AccountBackendEvent):String→List Position:=
 match projectAccountBackendEvent order index event with
 | .ok events=>events.foldl hold held
 | .error _=>held

structure Follower (κ:Type) where
 previous:List κ:=[]
 held:String→List Position:=fun _=>[]

section
variable {κ ρ μ:Type} [DecidableEq κ] {feed:Feed κ ρ} {order:RangeOrder} {index:AccountInstrumentIndex}
variable {metas:List (κ×Instrument)} {items:List AccountInstrument} {key other:κ} {id:String}

def Follower.receive (order:RangeOrder) (index:AccountInstrumentIndex) (f:Follower κ) (handled:Handled κ):
 Follower κ:=
 ⟨handled.previous,handled.events.foldl (tell order index) f.held⟩

def follow (order:RangeOrder) (index:AccountInstrumentIndex) (handle:List κ→μ→Handled κ)
 (messages:List μ):Follower κ:=
 messages.foldl (fun f message=>f.receive order index (handle f.previous message)) {}

def route (index:AccountInstrumentIndex) (metas:List (κ×Instrument)) (key:κ):Option String:=
 (Feed.meta? metas key).bind fun instrument=>
  index.resolve instrument.identity.nativeSymbol instrument.identity.nativeId

structure Routed (feed:Feed κ ρ) (index:AccountInstrumentIndex) (metas:List (κ×Instrument)):Prop where
 found:∀ key instrument,Feed.meta? metas key=some instrument → ∃ id,route index metas key=some id∧
  index.resolve (feed.names (some instrument) key).1 (feed.names (some instrument) key).2=some id
 separate:∀ key other id,route index metas key=some id→ route index metas other=some id→ key=other

theorem resolve_entered {item:AccountInstrument} (h:AccountInstrumentIndex.Entered item index):
 index.resolve item.instrument.identity.nativeSymbol item.instrument.identity.nativeId=some item.instrumentId∧
 index.resolve item.instrument.identity.nativeSymbol "" = some item.instrumentId:=by
 have htrim:GoText.trimSpace "" = "" := by decide
 have hsym:index.resolve item.instrument.identity.nativeSymbol "" = some item.instrumentId:=by
  rw[AccountInstrumentIndex.resolve,htrim,AccountInstrumentIndex.lookup_blank,Option.none_or,h.bySymbol]
 refine ⟨?_,hsym⟩
 by_cases hbla:GoText.trimSpace item.instrument.identity.nativeId=""
 · rw[AccountInstrumentIndex.resolve,hbla,AccountInstrumentIndex.lookup_blank,Option.none_or,h.bySymbol]
 · rw[AccountInstrumentIndex.resolve,h.byId hbla,Option.some_or]

theorem meta?_of_start (h:feed.start order items=.ok metas) {ins:Instrument}
 (hmeta:Feed.meta? metas key=some ins):
 ∃ item∈items,item.instrument=ins∧feed.market ins=.ok key:=by
 obtain ⟨fnd,hfd,rfl⟩:=Option.map_eq_some_iff.mp hmeta
 obtain ⟨item,hitem,hen⟩:=exists_of_mem_mapM h (mem_of_last? hfd)
 obtain ⟨_,hmk,rfl⟩:=map_eq_ok hen
 cases key_of_last? hfd
 exact ⟨item,order.mem_visit.mp hitem,rfl,hmk⟩

theorem routed_of_start {venue:Venue} {prod:Product}
 (hind:AccountInstrumentIndex.ofInstruments venue prod items=.ok index)
 (hids:(items.map AccountInstrument.instrumentId).Nodup) (hstrt:feed.start order items=.ok metas):
 Routed feed index metas:=by
 have hrt {key:κ} {ins:Instrument} (hmeta:Feed.meta? metas key=some ins):
   ∃ item∈items,item.instrument=ins∧feed.market ins=.ok key∧
    AccountInstrumentIndex.Entered item index∧route index metas key=some item.instrumentId:=by
  obtain ⟨item,hitem,rfl,hmk⟩:=meta?_of_start hstrt hmeta
  have hent:=AccountInstrumentIndex.ofInstruments_eq_ok hind item hitem
  refine ⟨item,hitem,rfl,hmk,hent,?_⟩
  rw[route,hmeta,Option.bind_some,(resolve_entered hent).1]
 refine ⟨fun key ins hmeta=>?_,fun key other id hkey hoth=>?_⟩
 · obtain ⟨item,-,rfl,hmk,hent,hid⟩:=hrt hmeta
   refine ⟨item.instrumentId,hid,?_⟩
   obtain hnames | hnames:=feed.names_eq hmk
   · rw[hnames]
     exact (resolve_entered hent).1
   · rw[hnames]
     exact (resolve_entered hent).2
 · obtain ⟨ins,hmeta,-⟩:=Option.bind_eq_some_iff.mp hkey
   obtain ⟨ins',hmt',-⟩:=Option.bind_eq_some_iff.mp hoth
   obtain ⟨item,hitem,rfl,hmk,-,hid⟩:=hrt hmeta
   grind [inj_on_of_nodup_map]

/-! ## One message -/

theorem tell_snapshot (h:Routed feed index metas) (hid:route index metas key=some id) {positions:List Position}
 (hps:∀ position∈positions,index.resolve position.nativeSymbol position.nativeId=some id)
 (held:String→List Position):
 tell order index held (feed.snapshot metas key positions)=Function.update held id positions:=by
 obtain ⟨ins,hmeta,-⟩:=Option.bind_eq_some_iff.mp hid
 obtain ⟨fnd,hrt,hnames⟩:=h.found key ins hmeta
 obtain rfl:=Option.some.inj (hid.symm.trans hrt)
 have hpro:projectPositionEvent order index ⟨(feed.names (Feed.meta? metas key) key).1,
   (feed.names (Feed.meta? metas key) key).2,{kind:=.snapshot,positions}⟩ =
   .ok [(id,{kind:=.snapshot,positions})]:=by
  by_cases hnil:positions=[]
  · subst hnil
    simp only[projectPositionEvent,hmeta,hnames]
    rfl
  · exact projectPositionEvent_same order hnil hps
 have heve:projectAccountBackendEvent order index (feed.snapshot metas key positions) =
   .ok [{kind:=.position,instrumentId:=id,position:=some {kind:=.snapshot,positions}}]:=by
  simp only[projectAccountBackendEvent,Feed.snapshot,required,bind,Except.bind,hpro]
  rfl
 rw[tell,heve]
 rfl

theorem foldl_tell_eq {evs:List AccountBackendEvent} {value:List Position} {held:String→List Position}
 (hsets:∀ ev∈evs,∃ other poss,(∀ held,tell order index held ev =
  Function.update held other poss)∧(other=id→ poss=value))
 (hsome:(∃ ev∈evs,∀ held,tell order index held ev id=value)∨held id=value):
 evs.foldl (tell order index) held id=value:=by
 induction evs generalizing held with
 | nil=>exact hsome.resolve_left (by simp)
 | cons ev rest ih=>
  refine ih (fun lat hlat=>hsets lat (mem_cons_of_mem _ hlat)) ?_
  obtain ⟨other,poss,hev,hv⟩:=hsets ev mem_cons_self
  by_cases hoth:other=id
  · right
    rw[hev,←hoth,Function.update_self,hv hoth]
  · obtain ⟨lat,hlat,htel⟩ | hheld:=hsome
    · grind
    · right
      rw[hev,Function.update_of_ne (Ne.symm hoth),hheld]

theorem tellRows_eq (feed:Feed κ ρ) (order:RangeOrder) {rows:List ρ} {converted:List (κ×Position)} (previous:List κ)
 (h:rows.mapM (feed.convertRow metas)=.ok converted) (current:List κ):
 ∃ last,feed.tellRows order metas previous rows current =
  ⟨converted.map (fun row=>feed.snapshot metas row.1 (Feed.nonzero row.2)) ++
   ((order.visit previous).filter fun key=>key∉last).map fun key=>feed.snapshot metas key [],none,last⟩∧
  ∀ key,key∈last ↔ key∈current∨∃ row∈converted,row.1=key∧row.2.quantity.isZero=false:=by
 have heach:=mapM_eq_ok_iff.mp h
 clear h
 induction heach generalizing current with
 | nil=>exact ⟨current,rfl,by simp⟩
 | @cons row head rows converted hrow _ ih=>
  obtain ⟨last,hlast,hmem⟩:=ih (if head.2.quantity.isZero then current else current.insert head.1)
  refine ⟨last,?_,fun key=>(hmem key).trans ?_⟩
  · simp only[Feed.tellRows,hrow,hlast]
    rfl
  · grind

structure Inv (index:AccountInstrumentIndex) (metas:List (κ×Instrument)) (f:Follower κ):Prop where
 known:∀ key∈f.previous,∃ id,route index metas key=some id
 held:∀ id,f.held id≠[] → ∃ key∈f.previous,route index metas key=some id

theorem converted_row (h:Routed feed index metas) {row:ρ} {converted:κ×Position}
 (hrow:feed.convertRow metas row=.ok converted):
 converted.1=feed.key row∧∃ id,route index metas converted.1=some id∧
  index.resolve converted.2.nativeSymbol converted.2.nativeId=some id:=by
 obtain ⟨ins,hmeta,hrow⟩:=bind_eq_ok hrow
 obtain ⟨position,hpos,hrow⟩:=bind_eq_ok hrow
 cases hrow
 obtain ⟨id,hid,-⟩:=h.found _ _ (required_eq_ok hmeta)
 refine ⟨rfl,id,hid,?_⟩
 rw[(feed.named hpos).1,(feed.named hpos).2]
 rwa[route,required_eq_ok hmeta] at hid

theorem mem_nonzero {position p:Position} (h:p∈Feed.nonzero position):
 p=position∧position.quantity.isZero=false:=by
 grind [Feed.nonzero]

theorem nonzero_eq_nil {position:Position}:Feed.nonzero position=[] ↔ position.quantity.isZero=true:=by
 grind [Feed.nonzero]

structure Listed (index:AccountInstrumentIndex) (metas:List (κ×Instrument)) (converted:List (κ×Position))
  (last:List κ):Prop where
 routed:∀ row∈converted,∃ id,route index metas row.1=some id∧
  index.resolve row.2.nativeSymbol row.2.nativeId=some id
 unique:Unique Prod.fst converted
 mem_last:∀ key,key∈last ↔ ∃ row∈converted,row.1=key∧row.2.quantity.isZero=false

section
variable {converted:List (κ×Position)} {last previous:List κ} {row:κ×Position}

theorem rowsOf_converted (hrou:∀ row∈converted,∃ id,route index metas row.1=some id∧
  index.resolve row.2.nativeSymbol row.2.nativeId=some id) (id:String):
 rowsOf index id (converted.flatMap fun row=>Feed.nonzero row.2) =
  (converted.filter fun row=>route index metas row.1=some id).flatMap fun row=>Feed.nonzero row.2:=by
 induction converted with
 | nil=>rfl
 | cons row rest ih=>
  obtain ⟨own,hrt,hres⟩:=hrou row mem_cons_self
  have hrest:=ih fun lat hlat=>hrou lat (mem_cons_of_mem _ hlat)
  rw[rowsOf] at hrest ⊢
  rw[flatMap_cons,filter_append,hrest,filter_cons]
  by_cases hid:own=id
  · subst hid
    rw[if_pos (by simpa using hrt),flatMap_cons,filter_eq_self.mpr]
    intro p hp
    obtain ⟨rfl,-⟩:=mem_nonzero hp
    simpa using hres
  · rw[if_neg (by simpa[hrt] using hid),filter_eq_nil_iff.mpr,nil_append]
    intro p hp
    obtain ⟨rfl,-⟩:=mem_nonzero hp
    simpa[hres] using hid

theorem Listed.rowsOf_row (h:Listed index metas converted last) (hfeed:Routed feed index metas)
 (hrow:row∈converted) (hid:route index metas row.1=some id):
 rowsOf index id (converted.flatMap fun row=>Feed.nonzero row.2)=Feed.nonzero row.2:=by
 have hall:∀ other∈converted.filter fun row=>route index metas row.1=some id,other=row:=by
  intro other hoth
  obtain ⟨hoth,hrt⟩:=mem_filter.mp hoth
  exact h.unique.eq_of_key hoth hrow (hfeed.separate _ _ id (by simpa using hrt) hid)
 have hmem:row∈converted.filter fun row=>route index metas row.1=some id:=
  mem_filter.mpr ⟨hrow,by simpa using hid⟩
 have hnd:=(Nodup.of_map _ h.unique).filter fun row=>decide (route index metas row.1=some id)
 rw[rowsOf_converted h.routed]
 rw[eq_replicate_of_mem hall] at hmem hnd ⊢
 rw[Nat.le_antisymm (nodup_replicate.mp hnd) (Nat.one_le_iff_ne_zero.mpr (mem_replicate.mp hmem).1)]
 exact flatMap_singleton _ _

theorem Listed.rowsOf_closed (h:Listed index metas converted last)
 (hcl:∀ key∈last,route index metas key≠some id):
 rowsOf index id (converted.flatMap fun row=>Feed.nonzero row.2)=[]:=by
 rw[rowsOf_converted h.routed,flatMap_eq_nil_iff]
 intro row hrow
 obtain ⟨hrow,hrt⟩:=mem_filter.mp hrow
 rw[nonzero_eq_nil,←Bool.not_eq_false]
 exact fun hopen=>hcl row.1 ((h.mem_last row.1).mpr ⟨row,hrow,rfl,hopen⟩) (by simpa using hrt)

theorem Listed.tell_row (h:Listed index metas converted last) (hfeed:Routed feed index metas)
 (hrow:row∈converted) (hid:route index metas row.1=some id) (held:String→List Position):
 tell order index held (feed.snapshot metas row.1 (Feed.nonzero row.2)) =
  Function.update held id (Feed.nonzero row.2):=by
 obtain ⟨own,hrt,hres⟩:=h.routed row hrow
 cases hid.symm.trans hrt
 exact tell_snapshot hfeed hid (fun p hp=>(mem_nonzero hp).1▸hres) held

theorem tell_closed (hfeed:Routed feed index metas) (hid:route index metas key=some id)
 (held:String→List Position):tell order index held (feed.snapshot metas key [])=Function.update held id []:=
 tell_snapshot hfeed hid (fun _ hp=>absurd hp not_mem_nil) held

theorem Listed.held (h:Listed index metas converted last) (hfeed:Routed feed index metas) {f:Follower κ}
 (hinv:Inv index metas f) (id:String):
 (converted.map (fun row=>feed.snapshot metas row.1 (Feed.nonzero row.2)) ++
  ((order.visit f.previous).filter fun key=>key∉last).map fun key=>feed.snapshot metas key []).foldl
   (tell order index) f.held id=rowsOf index id (converted.flatMap fun row=>Feed.nonzero row.2):=by
 refine foldl_tell_eq ?_ ?_
 · intro ev hev
   obtain hev | hev:=mem_append.mp hev
   · obtain ⟨row,hrow,rfl⟩:=mem_map.mp hev
     obtain ⟨own,hrt,-⟩:=h.routed row hrow
     refine ⟨own,_,h.tell_row hfeed hrow hrt,?_⟩
     rintro rfl
     exact (h.rowsOf_row hfeed hrow hrt).symm
   · obtain ⟨key,hkey,rfl⟩:=mem_map.mp hev
     obtain ⟨hkey,hgone⟩:=mem_filter.mp hkey
     obtain ⟨own,hrt⟩:=hinv.known key (order.mem_visit.mp hkey)
     refine ⟨own,[],tell_closed hfeed hrt,?_⟩
     rintro rfl
     refine (h.rowsOf_closed fun other hoth hsame=>?_).symm
     rw[hfeed.separate other key own hsame hrt] at hoth
     grind
 · by_cases hrow:∃ row∈converted,route index metas row.1=some id
   · obtain ⟨row,hrow,hrt⟩:=hrow
     refine .inl ⟨_,mem_append_left _ (mem_map_of_mem hrow),fun held=>?_⟩
     rw[h.tell_row hfeed hrow hrt,Function.update_self,h.rowsOf_row hfeed hrow hrt]
   · have hcl:∀ key∈last,route index metas key≠some id:=by
      intro key hkey hrt
      obtain ⟨row,hmem,rfl,-⟩:=(h.mem_last key).mp hkey
      exact hrow ⟨row,hmem,hrt⟩
     rw[h.rowsOf_closed hcl]
     by_cases hheld:f.held id=[]
     · exact .inr hheld
     · obtain ⟨key,hkey,hrt⟩:=hinv.held id hheld
       have hgone:key∉last:=fun hopen=>hcl key hopen hrt
       have hmem:key∈(order.visit f.previous).filter fun key=>key∉last:=
        mem_filter.mpr ⟨order.mem_visit.mpr hkey,decide_eq_true hgone⟩
       refine .inl ⟨_,mem_append_right _ (mem_map_of_mem hmem),fun held=>?_⟩
       rw[tell_closed hfeed hrt,Function.update_self]

theorem receive_rows (hfeed:Routed feed index metas) {f:Follower κ} (hinv:Inv index metas f) {rows:List ρ}
 (hone:(rows.map feed.key).Nodup) {poss:List Position}
 (hps:feed.openPositions metas rows=.ok poss):
 (∀ id,(f.receive order index (feed.tellRows order metas f.previous rows [])).held id=rowsOf index id poss)∧
  Inv index metas (f.receive order index (feed.tellRows order metas f.previous rows [])):=by
 obtain ⟨converted,hcon,hres⟩:=bind_eq_ok hps
 cases hres
 obtain ⟨last,htold,hlast⟩:=tellRows_eq feed order f.previous hcon []
 have hkeys:rows.map feed.key=converted.map Prod.fst:=by
  rw[←forall₂_eq_eq_eq,forall₂_map_left_iff,forall₂_map_right_iff]
  exact (mapM_eq_ok_iff.mp hcon).imp fun _ _ hrow=>(converted_row hfeed hrow).1.symm
 have h:Listed index metas converted last:=by
  refine ⟨fun row hrow=>?_,?_,fun key=>(hlast key).trans (by simp)⟩
  · obtain ⟨src,-,hsou⟩:=exists_of_mem_mapM hcon hrow
    exact (converted_row hfeed hsou).2
  · rw[KeyedRows.Unique,←hkeys]
    exact hone
 rw[htold]
 refine ⟨h.held hfeed hinv,?_,?_⟩
 · intro key hkey
   obtain ⟨row,hrow,rfl,-⟩:=(h.mem_last key).mp hkey
   obtain ⟨id,hrt,-⟩:=h.routed row hrow
   exact ⟨id,hrt⟩
 · intro id hopen
   by_contra hnot
   exact hopen ((h.held hfeed hinv id).trans (h.rowsOf_closed fun key hkey hrt=>hnot ⟨key,hkey,hrt⟩))

end

/-! ## A run of messages -/

variable {handle:List κ→μ→Handled κ} {rows:μ→List ρ} {messages:List μ} {message:μ}

def HandlesRows (feed:Feed κ ρ) (order:RangeOrder) (index:AccountInstrumentIndex)
 (metas:List (κ×Instrument)) (handle:List κ→μ→Handled κ) (rows:List ρ) (message:μ):Prop:=
 ∀ f:Follower κ,f.receive order index (handle f.previous message) =
  f.receive order index (feed.tellRows order metas f.previous rows [])

theorem follow_concat (h:HandlesRows feed order index metas handle (rows message) message) (messages:List μ):
 follow order index handle (messages++[message])=(follow order index handle messages).receive order index
  (feed.tellRows order metas (follow order index handle messages).previous (rows message) []):=
 (foldl_append ..).trans (h _)

theorem inv_follow (hfeed:Routed feed index metas) (hmes:∀ m∈messages,feed.Clean metas (rows m)∧
  HandlesRows feed order index metas handle (rows m) m):Inv index metas (follow order index handle messages):=by
 induction messages using List.reverseRecOn with
 | nil=>exact ⟨nofun,fun _ hheld=>absurd rfl hheld⟩
 | append_singleton messages message ih=>
  have hinv:=ih fun m hm=>hmes m (mem_append_left _ hm)
  obtain ⟨⟨hone,hok⟩,hhan⟩:=hmes message (mem_append_right _ mem_cons_self)
  rw[follow_concat hhan]
  cases hps : feed.openPositions metas (rows message) with
  | error=>
   rw[hps] at hok
   cases hok
  | ok=>exact (receive_rows hfeed hinv hone hps).2

theorem held_follow (hfeed:Routed feed index metas) (hmes:∀ m∈messages++[message],
  feed.Clean metas (rows m)∧HandlesRows feed order index metas handle (rows m) m)
 {positions:List Position} (hps:feed.openPositions metas (rows message)=.ok positions) (id:String):
 (follow order index handle (messages++[message])).held id=rowsOf index id positions:=by
 have hinv:=inv_follow hfeed fun m hm=>hmes m (mem_append_left _ hm)
 obtain ⟨⟨hone,-⟩,hhan⟩:=hmes message (mem_append_right _ mem_cons_self)
 rw[follow_concat hhan]
 exact (receive_rows hfeed hinv hone hps).1 id

end

/-- The snapshots of a message fold to the open positions it lists. -/
theorem snapshots_fold_to_message (order:RangeOrder) (items:List AccountInstrument) (index:AccountInstrumentIndex)
 (hids:(items.map AccountInstrument.instrumentId).Nodup):
 (AccountInstrumentIndex.ofInstruments .lighter .perp items=.ok index →
  ∀ lib metas messages message positions,(Lighter.feed lib).start order items=.ok metas →
   (∀ m∈messages++[message],(Lighter.feed lib).Clean metas (Lighter.rows order m)) →
   (Lighter.feed lib).openPositions metas (Lighter.rows order message)=.ok positions →
   ∀ id,(follow order index (Lighter.handle lib order metas) (messages++[message])).held id =
    rowsOf index id positions)∧
 (AccountInstrumentIndex.ofInstruments .hyperliquid .perp items=.ok index →
  ∀ metas messages message positions,Hyperliquid.feed.start order items=.ok metas →
   (∀ m∈messages++[message],Hyperliquid.feed.Clean metas m.assetPositions∧
    (Hyperliquid.hyperliquidPerpBalanceEvent m).toBool=true) →
   Hyperliquid.feed.openPositions metas message.assetPositions=.ok positions →
   ∀ id,(follow order index (Hyperliquid.handle order metas) (messages++[message])).held id =
    rowsOf index id positions):=by
 refine ⟨fun hind lib metas messages message positions hstrt hcle hps id=>?_,
  fun hind metas messages message positions hstrt hcle hps id=>?_⟩
 · exact held_follow (routed_of_start hind hids hstrt) (fun m hm=>⟨hcle m hm,fun _=>rfl⟩) hps id
 · refine held_follow (routed_of_start hind hids hstrt) (fun m hm=>⟨(hcle m hm).1,fun f=>?_⟩) hps id
   obtain ⟨-,hbal⟩:=hcle m hm
   unfold Hyperliquid.handle
   split
   · next err herr=>
     rw[herr] at hbal
     cases hbal
   · rfl

namespace Scenario

def item (venue:Venue) (symbol nativeId:String):AccountInstrument:=
 { instrumentId:=symbol
   instrument:=
    { identity:=
       { venue,product:=.perp,symbol,baseAsset:=symbol,quoteAsset:="USDC",settleAsset:="USDC"
         nativeSymbol:=symbol,nativeId}
      rules:={priceIncrement:=⟨1,-1⟩,quantityIncrement:=⟨1,-3⟩}}}

def items (venue:Venue):List AccountInstrument:=[item venue "BTC" "0",item venue "ETH" "1"]
def index:AccountInstrumentIndex:=⟨[("BTC","BTC"),("0","BTC"),("ETH","ETH"),("1","ETH")],by decide⟩

def openBtc:Hyperliquid.Row:=
 {coin:="BTC",szi:="-0.5",positionValue:="30000",entryPx:="61000",unrealizedPnl:="500" }

def opened:Hyperliquid.PerpPosition:=
 {assetPositions:=[openBtc],accountValue:="900",withdrawable:="100",time:=1}

def closed:Hyperliquid.PerpPosition:={accountValue:="900",withdrawable:="900",time:=2}
def liquidated:Hyperliquid.PerpPosition:={accountValue:="-1.5",withdrawable:="0.0",time:=2}
def openEth:Lighter.Row:={marketId:=1,sign:=1,position:="2",positionValue:="6000" }

def metas {κ:Type} (venue:Venue) (keys:List κ):List (κ×Instrument):=
 keys.zip ((items venue).map AccountInstrument.instrument)

end Scenario

theorem missing_positions_closed :
 (follow .listed Scenario.index (Lighter.handle ExactLookup.asciiLibrary .listed (Scenario.metas .lighter [0,1]))
  ([[some Scenario.openEth,none]]++[[]])).held "ETH" = []∧
 (follow .listed Scenario.index (Hyperliquid.handle .listed (Scenario.metas .hyperliquid ["BTC","ETH"]))
  ([Scenario.opened]++[Scenario.closed])).held "BTC" = []:=
 ⟨(snapshots_fold_to_message .listed (Scenario.items .lighter) Scenario.index (by decide)).1 rfl _ _ _ _ [] rfl
   (by decide) rfl "ETH",
  (snapshots_fold_to_message .listed (Scenario.items .hyperliquid) Scenario.index (by decide)).2 rfl _ _ _ [] rfl
   (by decide) rfl "BTC"⟩

theorem position_kept_on_negative_value :
 Hyperliquid.feed.start .listed (Scenario.items .hyperliquid)=.ok (Scenario.metas .hyperliquid ["BTC","ETH"])∧
 (∀ m∈[Scenario.opened,Scenario.liquidated],
  Hyperliquid.feed.Clean (Scenario.metas .hyperliquid ["BTC","ETH"]) m.assetPositions)∧
 (follow .listed Scenario.index (Hyperliquid.handle .listed (Scenario.metas .hyperliquid ["BTC","ETH"]))
  [Scenario.opened,Scenario.liquidated]).held "BTC" ≠ []:=
 ⟨rfl,by decide,by decide⟩

end BolterTrader.Adapters.PositionSnapshots
