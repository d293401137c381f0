import BolterTrader.Adapters.BybitBitgetAccount
import BolterTrader.Foundations.Transition
import BolterTrader.Gateway.Positions

/-! Position messages of Bybit and Bitget on their way to the gateway's rows: the
adapter sends one delta for each symbol of a message, with the positions of its open
rows only. -/
namespace BolterTrader.Gateway
open Foundations Foundations.Fallible Foundations.KeyedRows Exchange Adapters Adapters.BybitBitget List Option

variable {ρ:Type} (feed:PositionFeed ρ) (index:AccountInstrumentIndex) (sort:SliceSort positionLess)

/-! ## The pipeline -/

def rowsOf (message:List ρ) (symbol:String):List ρ:=message.filter fun row=>feed.symbol row=symbol

def handleSymbol (order:RangeOrder) (message:List ρ) (state:List NativeError×List PositionRow)
 (symbol:String):List NativeError×List PositionRow:=
 match feed.convertPositions (rowsOf feed message symbol) symbol with
 | .error err=>(state.1++[err],state.2)
 | .ok positions=>
  match projectPositionEvent order index {event:={kind:=.delta,positions}} with
  | .error text=>(state.1++[.leaf (.message text)],state.2)
  | .ok events=>(state.1,foldEvents sort state.2 events)

def handleMessage (order:RangeOrder) (message:List ρ) (rows:List PositionRow):
 List NativeError×List PositionRow:=
 (order.visit (message.map feed.symbol).dedup).foldl (handleSymbol feed index sort order message) ([],rows)

/-! ## What a message should do -/

def instrumentOf (symbol:String):Option String:=(feed.nativeId symbol).toOption.bind (index.resolve symbol)
def openPosition (row:ρ):Option Position:=(feed.convert row).toOption.join

def lastReceived (map:PositionMap) (message:List ρ):PositionMap:=fun id slot=>
 match last? (fun row=>(instrumentOf feed index (feed.symbol row),feed.slot row)) message (some id,some slot) with
 | none=>map id slot
 | some row=>(openPosition feed row).bind (projectPosition id)

structure FollowsMessage (rows:List PositionRow) (message:List ρ)
  (result:List NativeError×List PositionRow):Prop where
 noError:result.1=[]
 unique:Unique PositionRow.key result.2
 last:positionMap result.2=lastReceived feed index (positionMap rows) message

/-- The rows of one symbol convert, one is open, and none closes a stored position. -/
structure SymbolGetsThrough (rows:List PositionRow) (id:String) (group:List ρ):Prop where
 converted:∀ row∈group,∃ found,feed.convert row=.ok found
 someOpen:∃ row∈group,(openPosition feed row).isSome
 openLast:WrittenLast feed.slot (openPosition feed) group
 closedAbsent:∀ row∈group,∀ slot,feed.slot row=some slot →
  (∀ other∈group,feed.slot other=some slot→ openPosition feed other=none)→ positionMap rows id slot=none

def GetsThrough (rows:List PositionRow) (message:List ρ):Prop:=
 ∀ symbol∈message.map feed.symbol,∀ id,instrumentOf feed index symbol=some id →
  SymbolGetsThrough feed rows id (rowsOf feed message symbol)

/-- Every row names an instrument, and no two symbols name the same one. -/
structure NamesInstruments (message:List ρ):Prop where
 named:∀ row∈message,∃ id,instrumentOf feed index (feed.symbol row)=some id
 distinct:∀ row∈message,∀ other∈message,
  instrumentOf feed index (feed.symbol row)=instrumentOf feed index (feed.symbol other) →
   feed.symbol row=feed.symbol other

/-! ## One symbol -/

variable {feed index sort}

variable {position:Position}

theorem openPosition_eq_some_iff {row:ρ}:
 openPosition feed row=some position ↔ feed.convert row=.ok (some position):=by
 unfold openPosition
 cases feed.convert row with
 | error | ok=>simp[Except.toOption]

theorem slot_of_openPosition (row:ρ) (position:Position) (h:openPosition feed row=some position):
 some position.positionSlot=feed.slot row:=
 (feed.convert_spec row position (openPosition_eq_some_iff.mp h)).2.2.1.symm

theorem quantity_of_openPosition {row:ρ} (h:openPosition feed row=some position):
 position.quantity.isPositive=true:=
 (feed.convert_spec row position (openPosition_eq_some_iff.mp h)).2.2.2

theorem projectPosition_isSome {id:String} (h:position.quantity.isPositive=true):
 (projectPosition id position).isSome:=by
 grind [Decimal.isPositive,Decimal.isZero,projectPosition]

theorem resolve_of_openPosition {row:ρ} {id:String} (h:openPosition feed row=some position)
 (hid:instrumentOf feed index (feed.symbol row)=some id):
 index.resolve position.nativeSymbol position.nativeId=some id:=by
 obtain ⟨hsym,hid1,-,-⟩:=feed.convert_spec row position (openPosition_eq_some_iff.mp h)
 rw[instrumentOf,hid1] at hid
 rw[hsym]
 exact hid

theorem convert_eq_openPosition {row:ρ} (h:∃ fnd,feed.convert row=.ok fnd):
 feed.convert row=.ok (openPosition feed row):=by
 obtain ⟨fnd,hfd⟩:=h
 rw[openPosition,hfd]
 rfl

theorem filter_rowsOf (message:List ρ) (symbol:String):
 ((rowsOf feed message symbol).filter fun row=>symbol=""∨feed.symbol row=symbol) =
  rowsOf feed message symbol:=by
 refine filter_eq_self.mpr fun row hrow=>?_
 have hsym:=of_decide_eq_true (mem_filter.mp hrow).2
 grind

def openDelta (feed:PositionFeed ρ) (group:List ρ):PositionEvent:=
 {kind:=.delta,positions:=group.filterMap (openPosition feed)}

def Deliverable (feed:PositionFeed ρ) (group:List ρ):Prop:=
 (∀ row∈group,∃ found,feed.convert row=.ok found)∧group.filterMap (openPosition feed)≠[]

theorem convertPositions_eq_ok {message:List ρ} {symbol:String}
 (h:∀ row∈rowsOf feed message symbol,∃ fnd,feed.convert row=.ok fnd):
 feed.convertPositions (rowsOf feed message symbol) symbol =
  .ok ((rowsOf feed message symbol).filterMap (openPosition feed)):=by
 have hlis:(rowsOf feed message symbol).mapM feed.convert =
   .ok ((rowsOf feed message symbol).map (openPosition feed)):=by
  rw[mapM_eq_ok_iff,forall₂_map_right_iff,forall₂_same]
  exact fun row hrow=>convert_eq_openPosition (h row hrow)
 rw[PositionFeed.convertPositions,filter_rowsOf,hlis]
 simp[Except.map,List.reduceOption,filterMap_map]

theorem converted_of_convertPositions {message:List ρ} {symbol:String} {poss:List Position}
 (h:feed.convertPositions (rowsOf feed message symbol) symbol=.ok poss):
 ∀ row∈rowsOf feed message symbol,∃ found,feed.convert row=.ok found:=by
 rw[PositionFeed.convertPositions,filter_rowsOf] at h
 obtain ⟨lst,hlis,-⟩:=map_eq_ok h
 exact fun row hrow=>(exists_of_mapM_mem hlis hrow).imp fun _=>And.right

section
variable {order:RangeOrder} {message:List ρ} {symbol:String}

theorem handleSymbol_deliverable {id:String} (hid:instrumentOf feed index symbol=some id)
 (h:Deliverable feed (rowsOf feed message symbol)) (state:List NativeError×List PositionRow):
 handleSymbol feed index sort order message state symbol =
  (state.1,foldPositions sort state.2 id (openDelta feed (rowsOf feed message symbol))):=by
 have hpro:projectPositionEvent order index {event:=openDelta feed (rowsOf feed message symbol)} =
   .ok [(id,openDelta feed (rowsOf feed message symbol))]:=by
  apply projectPositionEvent_same order h.2
  intro position hpos
  obtain ⟨row,hrow,hopen⟩:=mem_filterMap.mp hpos
  have hsym:feed.symbol row=symbol:=of_decide_eq_true (mem_filter.mp hrow).2
  exact resolve_of_openPosition hopen (hsym.symm▸hid)
 unfold openDelta at hpro ⊢
 simp only[handleSymbol,convertPositions_eq_ok h.1,hpro,foldEvents,foldl_cons,foldl_nil]

theorem handleSymbol_undeliverable (h:¬Deliverable feed (rowsOf feed message symbol))
 (state:List NativeError×List PositionRow):
 ∃ err,handleSymbol feed index sort order message state symbol=(state.1++[err],state.2):=by
 cases hconv : feed.convertPositions (rowsOf feed message symbol) symbol with
 | error err=>exact ⟨err,by simp only[handleSymbol,hconv]⟩
 | ok=>
  have hcon:=converted_of_convertPositions hconv
  have hnone:(rowsOf feed message symbol).filterMap (openPosition feed)=[]:=by
   by_contra hsome
   exact h ⟨hcon,hsome⟩
  rw[convertPositions_eq_ok hcon,hnone] at hconv
  cases hconv
  refine ⟨.leaf (.message "empty account position event has no native instrument"),?_⟩
  simp only[handleSymbol,convertPositions_eq_ok hcon,hnone,projectPositionEvent_empty]

end

/-! ## The slots of one symbol -/

def lastOf (feed:PositionFeed ρ) (map:PositionMap) (id:String) (group:List ρ) (slot:PositionSlot):
 Option PositionRow:=
 match last? feed.slot group (some slot) with
 | none=>map id slot
 | some row=>(openPosition feed row).bind (projectPosition id)

section
variable {rows:List PositionRow} {id:String} {group:List ρ}

theorem apply_openDelta (map:PositionMap) (slot:PositionSlot):map.apply id (openDelta feed group) id slot =
  match last? (fun position=>some position.positionSlot) (group.filterMap (openPosition feed)) (some slot) with
  | some position=>projectPosition id position
  | none=>map id slot:=by
 rw[last?_map_injective (some_injective PositionSlot),PositionMap.apply,if_neg (not_not.mpr rfl)]
 simp only[openDelta]
 grind

theorem closed_of_last? (hlast:WrittenLast feed.slot (openPosition feed) group) {slot:PositionSlot} {row:ρ}
 (hrow:last? feed.slot group (some slot)=some row) (hcl:openPosition feed row=none):
 ∀ oth∈group,feed.slot oth=some slot→ openPosition feed oth=none:=by
 intro oth hoth hslot
 by_contra hsome
 obtain ⟨position,hpos⟩:=ne_none_iff_exists'.mp hsome
 have hnone:=hlast.last?_filterMap slot_of_openPosition (some slot)
 rw[hrow,bind_some,hcl,last?_eq_none_iff] at hnone
 apply hnone position (mem_filterMap.mpr ⟨oth,hoth,hpos⟩)
 rw[slot_of_openPosition oth position hpos,hslot]

theorem SymbolGetsThrough.lastOf_eq (h:SymbolGetsThrough feed rows id group) (slot:PositionSlot):
 (positionMap rows).apply id (openDelta feed group) id slot=lastOf feed (positionMap rows) id group slot:=by
 rw[apply_openDelta,h.openLast.last?_filterMap slot_of_openPosition,lastOf]
 cases hrow : last? feed.slot group (some slot) with
 | none=>rfl
 | some row=>
  cases hopen : openPosition feed row with
  | some=>simp[hopen]
  | none=>
   have habs:=h.closedAbsent row (mem_of_last? hrow) slot (key_of_last? hrow)
    (closed_of_last? h.openLast hrow hopen)
   simp[hopen,habs]

section
variable (hunique:Unique Position.positionSlot (group.filterMap (openPosition feed)))
 (hslots:∀ slot,(positionMap rows).apply id (openDelta feed group) id slot =
  lastOf feed (positionMap rows) id group slot)
include hunique hslots

theorem last?_opens (slot:PositionSlot):
 last? (fun position=>some position.positionSlot) (group.filterMap (openPosition feed)) (some slot) =
  (last? feed.slot group (some slot)).bind (openPosition feed):=by
 have hslot:=hslots slot
 rw[apply_openDelta,lastOf] at hslot
 cases hrow : last? feed.slot group (some slot) with
 | none=>
  apply last?_filterMap_eq_none slot_of_openPosition
  intro row hmem htag
  exact absurd htag (last?_eq_none_iff.mp hrow row hmem)
 | some row=>
  cases hopen : openPosition feed row with
  | some position=>
   have hmem:position∈group.filterMap (openPosition feed):=mem_filterMap.mpr ⟨row,mem_of_last? hrow,hopen⟩
   have hkey:some position.positionSlot=some slot:=
    (slot_of_openPosition row position hopen).trans (key_of_last? hrow)
   rw[(unique_option_iff.mpr hunique).last?_eq_some_iff.mpr ⟨hmem,hkey⟩,bind_some,hopen]
  | none=>
   -- An open row of a slot that the message closes last would still be there.
   rw[bind_some,hopen]
   by_contra hsome
   obtain ⟨position,hpos⟩:=ne_none_iff_exists'.mp hsome
   obtain ⟨oth,-,hoth⟩:=mem_filterMap.mp (mem_of_last? hpos)
   have hpro:(projectPosition id position).isSome:=projectPosition_isSome (quantity_of_openPosition hoth)
   grind

theorem writtenLast_of_slots:WrittenLast feed.slot (openPosition feed) group:=by
 apply writtenLast_of_unique slot_of_openPosition (unique_option_iff.mpr hunique)
 intro k
 cases k with
 | some slot=>exact last?_opens hunique hslots slot
 | none=>
  have hleft:last? (fun position=>some position.positionSlot) (group.filterMap (openPosition feed)) none =
   none:=last?_eq_none_iff.mpr fun position _ h=>some_ne_none _ h
  rw[hleft]
  cases hrow : last? feed.slot group none with
  | none=>rfl
  | some row=>
   -- An open row names its slot.
   rw[bind_some,eq_comm,eq_none_iff_forall_ne_some]
   intro position hopen
   have hslot:=slot_of_openPosition row position hopen
   rw[key_of_last? hrow] at hslot
   cases hslot

theorem closedAbsent_of_slots {row:ρ} (hrow:row∈group) {slot:PositionSlot}
 (hslot:feed.slot row=some slot)
 (hcl:∀ oth∈group,feed.slot oth=some slot→ openPosition feed oth=none):
 positionMap rows id slot=none:=by
 have hsome:(last? feed.slot group (feed.slot row)).isSome:=last?_isSome_of_mem hrow
 rw[hslot] at hsome
 obtain ⟨last,hlast⟩:=isSome_iff_exists.mp hsome
 have heq:=hslots slot
 rw[apply_openDelta,last?_opens hunique hslots,lastOf,hlast] at heq
 simpa[hcl last (mem_of_last? hlast) (key_of_last? hlast)] using heq

end

theorem symbolGetsThrough_iff:SymbolGetsThrough feed rows id group ↔
 Deliverable feed group∧Unique Position.positionSlot (openDelta feed group).positions∧
  ∀ slot,(positionMap rows).apply id (openDelta feed group) id slot =
   lastOf feed (positionMap rows) id group slot:=by
 constructor
 · intro h
   refine ⟨⟨h.converted,?_⟩,?_,h.lastOf_eq⟩
   · obtain ⟨row,hrow,hopen⟩:=h.someOpen
     grind
   · exact unique_option_iff.mp (h.openLast.unique_filterMap slot_of_openPosition)
 · rintro ⟨hdel,hunique,hslots⟩
   refine ⟨hdel.1,?_,writtenLast_of_slots hunique hslots,fun row hrow slot hslot hcl=>
    closedAbsent_of_slots hunique hslots hrow hslot hcl⟩
   obtain ⟨position,hpos⟩:=exists_mem_of_ne_nil _ hdel.2
   grind

end

/-! ## One message -/

section
variable {order:RangeOrder} {message:List ρ} {rows:List PositionRow}

def symbolsOf (feed:PositionFeed ρ) (order:RangeOrder) (message:List ρ):List String:=
 order.visit (message.map feed.symbol).dedup

variable {symbol:String}

theorem mem_symbolsOf:symbol∈symbolsOf feed order message ↔ symbol∈message.map feed.symbol:=by
 rw[symbolsOf,order.mem_visit,mem_dedup]

theorem nodup_symbolsOf:(symbolsOf feed order message).Nodup:=(order.perm _).nodup_iff.mpr (nodup_dedup _)

def deltasOf (feed:PositionFeed ρ) (index:AccountInstrumentIndex) (message:List ρ) (symbols:List String):
 List (String×PositionEvent):=
 symbols.map fun symbol=>
  ((instrumentOf feed index symbol).getD "",openDelta feed (rowsOf feed message symbol))

variable {id:String}

theorem mem_deltasOf {symbols:List String} (hsym:symbol∈symbols)
 (hid:instrumentOf feed index symbol=some id):
 (id,openDelta feed (rowsOf feed message symbol))∈deltasOf feed index message symbols:=by
 refine mem_map.mpr ⟨symbol,hsym,?_⟩
 rw[hid,getD_some]

theorem NamesInstruments.of_symbol (h:NamesInstruments feed index message)
 (hsym:symbol∈message.map feed.symbol):∃ id,instrumentOf feed index symbol=some id:=by
 obtain ⟨row,hrow,rfl⟩:=mem_map.mp hsym
 exact h.named row hrow

theorem NamesInstruments.of_visited (h:NamesInstruments feed index message):
 ∀ symbol∈symbolsOf feed order message,∃ id,instrumentOf feed index symbol=some id:=
 fun _ hsym=>h.of_symbol (mem_symbolsOf.mp hsym)

theorem NamesInstruments.inj (h:NamesInstruments feed index message) {other:String}
 (hsym:symbol∈message.map feed.symbol) (hoth:other∈message.map feed.symbol)
 (hid:instrumentOf feed index symbol=some id) (hid1:instrumentOf feed index other=some id):
 symbol=other:=by
 obtain ⟨row,hrow,rfl⟩:=mem_map.mp hsym
 obtain ⟨oro,hro,rfl⟩:=mem_map.mp hoth
 exact h.distinct row hrow oro hro (hid.trans hid1.symm)

theorem nodup_deltasOf (h:NamesInstruments feed index message):
 ((deltasOf feed index message (symbolsOf feed order message)).map Prod.fst).Nodup:=by
 rw[deltasOf,List.map_map]
 refine Nodup.map_on ?_ nodup_symbolsOf
 intro symbol hsym oth hoth hsame
 obtain ⟨id,hid⟩:=h.of_symbol (mem_symbolsOf.mp hsym)
 obtain ⟨oid,hid1⟩:=h.of_symbol (mem_symbolsOf.mp hoth)
 simp only[Function.comp_apply,hid,hid1,getD_some] at hsame
 exact h.inj (mem_symbolsOf.mp hsym) (mem_symbolsOf.mp hoth) hid (hsame▸hid1)

theorem notMem_deltasOf (h:NamesInstruments feed index message)
 (hid:∀ symbol∈message.map feed.symbol,instrumentOf feed index symbol≠some id):
 id∉(deltasOf feed index message (symbolsOf feed order message)).map Prod.fst:=by
 rw[deltasOf,List.map_map]
 intro hmem
 obtain ⟨symbol,hsym,rfl⟩:=mem_map.mp hmem
 obtain ⟨own1,howne⟩:=h.of_visited symbol hsym
 apply hid symbol (mem_symbolsOf.mp hsym)
 simp only[Function.comp_apply,howne,getD_some]

section
variable {symbols:List String} (hnames:∀ symbol∈symbols,∃ id,instrumentOf feed index symbol=some id)
 {state:List NativeError×List PositionRow}
include hnames

theorem foldl_handleSymbol (hdel:∀ symbol∈symbols,Deliverable feed (rowsOf feed message symbol)):
 symbols.foldl (handleSymbol feed index sort order message) state =
  (state.1,foldEvents sort state.2 (deltasOf feed index message symbols)):=by
 induction symbols generalizing state with
 | nil=>rfl
 | cons symbol rest ih=>
  obtain ⟨⟨id,hid⟩,hre⟩:=forall_mem_cons.mp hnames
  obtain ⟨hfst,hrest⟩:=forall_mem_cons.mp hdel
  rw[foldl_cons,handleSymbol_deliverable hid hfst,ih hre hrest]
  simp only[deltasOf,map_cons,hid,getD_some,foldEvents,foldl_cons]

theorem deliverable_of_noError (h:(symbols.foldl (handleSymbol feed index sort order message) state).1=[]):
 state.1=[]∧∀ symbol∈symbols,Deliverable feed (rowsOf feed message symbol):=by
 induction symbols generalizing state with
 | nil=>exact ⟨h,by simp⟩
 | cons symbol rest ih=>
  obtain ⟨⟨id,hid⟩,hre⟩:=forall_mem_cons.mp hnames
  obtain ⟨hst,hrest⟩:=ih hre h
  by_cases hfst:Deliverable feed (rowsOf feed message symbol)
  · rw[handleSymbol_deliverable hid hfst] at hst
    grind
  · obtain ⟨err,herr⟩:=handleSymbol_undeliverable hfst state
    rw[herr] at hst
    exact absurd hst (by simp)

end

theorem handleMessage_deliverable (h:NamesInstruments feed index message)
 (hdel:∀ symbol∈symbolsOf feed order message,Deliverable feed (rowsOf feed message symbol)):
 handleMessage feed index sort order message rows =
  ([],foldEvents sort rows (deltasOf feed index message (symbolsOf feed order message))):=
 foldl_handleSymbol h.of_visited hdel

theorem lastReceived_of_symbol (h:NamesInstruments feed index message) (map:PositionMap)
 (hsym:symbol∈message.map feed.symbol) (hid:instrumentOf feed index symbol=some id) (slot:PositionSlot):
 lastReceived feed index map message id slot=lastOf feed map id (rowsOf feed message symbol) slot:=by
 have hrows:(message.filter fun row=>instrumentOf feed index (feed.symbol row)=some id) =
   rowsOf feed message symbol:=by
  refine filter_congr fun row hrow=>?_
  simp only[decide_eq_decide]
  constructor
  · exact fun hid1=>h.inj (mem_map_of_mem hrow) hsym hid1 hid
  · rintro rfl
    exact hid
 rw[lastReceived,last?_prod,hrows,lastOf]

theorem lastReceived_of_other (map:PositionMap)
 (hid:∀ symbol∈message.map feed.symbol,instrumentOf feed index symbol≠some id) (slot:PositionSlot):
 lastReceived feed index map message id slot=map id slot:=by
 have hnone:last? (fun row=>(instrumentOf feed index (feed.symbol row),feed.slot row)) message
   (some id,some slot)=none:=by
  refine last?_eq_none_iff.mpr fun row hrow hkey=>?_
  exact hid (feed.symbol row) (mem_map_of_mem hrow) (congrArg Prod.fst hkey)
 rw[lastReceived,hnone]

theorem unique_slots_of_rows {group:List ρ} {aft:List PositionRow} (haf:Unique PositionRow.key aft)
 (hpart:((openDelta feed group).positions.filterMap (projectPosition id)).Subperm aft):
 Unique Position.positionSlot (openDelta feed group).positions:=by
 have hkeys:((openDelta feed group).positions.filterMap (projectPosition id)).map PositionRow.key =
   (openDelta feed group).positions.map fun position=>(id,position.positionSlot):=by
  rw[map_filterMap,←filterMap_eq_map]
  refine filterMap_congr fun position hpos=>?_
  obtain ⟨row,-,hopen⟩:=mem_filterMap.mp hpos
  have hsome:(projectPosition id position).isSome:=projectPosition_isSome (quantity_of_openPosition hopen)
  obtain ⟨prj,hpro⟩:=isSome_iff_exists.mp hsome
  rw[hpro,map_some,key_of_projectPosition position prj hpro]
  rfl
 have hnd:=nodup_of_subperm (subperm_map hpart PositionRow.key) haf
 rw[hkeys] at hnd
 refine Nodup.of_map (fun slot=>(id,slot)) ?_
 rw[List.map_map]
 exact hnd

section
variable (hrows:Unique PositionRow.key rows) (hnames:NamesInstruments feed index message)
include hrows hnames

theorem getsThrough_of_followsMessage
 (h:FollowsMessage feed index rows message (handleMessage feed index sort order message rows)):
 GetsThrough feed index rows message:=by
 have hids:((deltasOf feed index message (symbolsOf feed order message)).map Prod.fst).Nodup:=
  nodup_deltasOf hnames
 have hdel:=(deliverable_of_noError hnames.of_visited h.noError).2
 rw[handleMessage_deliverable hnames hdel] at h
 have hslots:∀ ev∈deltasOf feed index message (symbolsOf feed order message),
   Unique Position.positionSlot ev.2.positions:=by
  intro ev hev
  obtain ⟨oth,hoth,rfl⟩:=mem_map.mp hev
  obtain ⟨oid,hid1⟩:=hnames.of_visited oth hoth
  exact unique_slots_of_rows h.unique (projected_subperm_foldEvents hids (mem_deltasOf hoth hid1))
 intro symbol hsym id hid
 have hmem:(id,_)∈deltasOf feed index message (symbolsOf feed order message):=
  mem_deltasOf (mem_symbolsOf.mpr hsym) hid
 refine symbolGetsThrough_iff.mpr ⟨hdel symbol (mem_symbolsOf.mpr hsym),hslots _ hmem,fun slot=>?_⟩
 rw[←lastReceived_of_symbol hnames (positionMap rows) hsym hid,←h.last,
  positionMap_foldEvents_of_mem hrows hslots hids hmem]

theorem followsMessage_of_getsThrough (h:GetsThrough feed index rows message):
 FollowsMessage feed index rows message (handleMessage feed index sort order message rows):=by
 have hthr:∀ symbol∈symbolsOf feed order message,Deliverable feed (rowsOf feed message symbol)∧
   Unique Position.positionSlot (openDelta feed (rowsOf feed message symbol)).positions:=by
  intro symbol hsym
  obtain ⟨id,hid⟩:=hnames.of_visited symbol hsym
  obtain ⟨hdel,hunique,-⟩:=symbolGetsThrough_iff.mp (h symbol (mem_symbolsOf.mp hsym) id hid)
  exact ⟨hdel,hunique⟩
 have hslots:∀ ev∈deltasOf feed index message (symbolsOf feed order message),
   Unique Position.positionSlot ev.2.positions:=by
  intro ev hev
  obtain ⟨symbol,hsym,rfl⟩:=mem_map.mp hev
  exact (hthr symbol hsym).2
 rw[handleMessage_deliverable hnames fun symbol hsym=>(hthr symbol hsym).1]
 refine ⟨rfl,unique_foldEvents hrows hslots,?_⟩
 funext id slot
 by_cases hid:∃ symbol∈message.map feed.symbol,instrumentOf feed index symbol=some id
 · obtain ⟨symbol,hsym,hid⟩:=hid
   have hmem:(id,_)∈deltasOf feed index message (symbolsOf feed order message):=
    mem_deltasOf (mem_symbolsOf.mpr hsym) hid
   rw[positionMap_foldEvents_of_mem hrows hslots (nodup_deltasOf hnames) hmem,
    lastReceived_of_symbol hnames _ hsym hid]
   exact (h symbol hsym id hid).lastOf_eq slot
 · have hoth:∀ symbol∈message.map feed.symbol,instrumentOf feed index symbol≠some id:=
    fun symbol hsym hsame=>hid ⟨symbol,hsym,hsame⟩
   rw[lastReceived_of_other _ hoth]
   exact positionMap_foldEvents_of_notMem hrows hslots (notMem_deltasOf hnames hoth) slot

theorem followsMessage_iff :
 FollowsMessage feed index rows message (handleMessage feed index sort order message rows) ↔
  GetsThrough feed index rows message:=
 ⟨getsThrough_of_followsMessage hrows hnames,followsMessage_of_getsThrough hrows hnames⟩

end

end

/-! ## Runs -/

structure Delivery (ρ:Type) where
 order:RangeOrder:=.listed
 message:List ρ

def messageStep (feed:PositionFeed ρ) (index:AccountInstrumentIndex) (sort:SliceSort positionLess)
 (rows:List PositionRow) (delivery:Delivery ρ):Option (List PositionRow):=
 some (handleMessage feed index sort delivery.order delivery.message rows).2

/-- After every message the rows are the positions last received. -/
def RunFollows (feed:PositionFeed ρ) (index:AccountInstrumentIndex) (sort:SliceSort positionLess)
 (rows:List PositionRow) (deliveries:List (Delivery ρ)):Prop:=
 Transition.Along (messageStep feed index sort) (fun rows delivery=>
  FollowsMessage feed index rows delivery.message
   (handleMessage feed index sort delivery.order delivery.message rows)) rows deliveries

def RunGetsThrough (feed:PositionFeed ρ) (index:AccountInstrumentIndex) (sort:SliceSort positionLess)
 (rows:List PositionRow) (deliveries:List (Delivery ρ)):Prop:=
 Transition.Along (messageStep feed index sort) (fun rows delivery=>GetsThrough feed index rows delivery.message)
  rows deliveries

theorem runFollows_iff {rows:List PositionRow} (hrows:Unique PositionRow.key rows)
 {deliveries:List (Delivery ρ)} (hnames:∀ delivery∈deliveries,NamesInstruments feed index delivery.message):
 RunFollows feed index sort rows deliveries ↔ RunGetsThrough feed index sort rows deliveries:=by
 apply Transition.along_congr_of_invariant (Unique PositionRow.key) ?_ ?_ hrows
 · intro rows delivery next _ hfol hstep
   cases hstep
   exact hfol.unique
 · intro rows delivery hdel hunique
   exact followsMessage_iff hunique (hnames delivery hdel)

/-- The stored positions follow a run of messages exactly when every message gets through. -/
theorem position_messages_follow_iff (client:ClientMeta) (catalog:Option (String→Except NativeError Instrument))
 (index:AccountInstrumentIndex) (sort:SliceSort positionLess) (rows:List PositionRow)
 (hrows:Unique PositionRow.key rows):
 (∀ deliveries:List (Delivery BybitPositionRow),
  (∀ delivery∈deliveries,NamesInstruments (bybitFeed client catalog) index delivery.message) →
   (RunFollows (bybitFeed client catalog) index sort rows deliveries ↔
    RunGetsThrough (bybitFeed client catalog) index sort rows deliveries))∧
 ∀ deliveries:List (Delivery BitgetPositionRow),
  (∀ delivery∈deliveries,NamesInstruments (bitgetFeed client catalog) index delivery.message) →
   (RunFollows (bitgetFeed client catalog) index sort rows deliveries ↔
    RunGetsThrough (bitgetFeed client catalog) index sort rows deliveries):=
 ⟨fun _ hnames=>runFollows_iff hrows hnames,fun _ hnames=>runFollows_iff hrows hnames⟩

/-! ## A position is opened and closed on Bybit -/

def bybit:PositionFeed BybitPositionRow:=
 bybitFeed {venue:=.bybit,product:=.perp}
  (some fun symbol=>.ok {identity:={nativeSymbol:=symbol,nativeId:=symbol}})

def bybitIndex:AccountInstrumentIndex:=⟨[("BTCUSDT","bybit:perp:BTCUSDT")],by decide⟩

def opening:Delivery BybitPositionRow:=
 {message:=[{symbol:="BTCUSDT",side:="Buy",size:="0.5",avgPrice:="60000" }]}

def closing:Delivery BybitPositionRow:={message:=[{symbol:="BTCUSDT",size:="0" }]}

def hedged (size : String) : Delivery BybitPositionRow where
  message := [{symbol := "BTCUSDT", positionIdx := 1, side := "Buy", size, avgPrice := "60000" },
    {symbol := "BTCUSDT", positionIdx := 2, size := "0" }]

theorem hedged_names (size : String) : NamesInstruments bybit bybitIndex (hedged size).message where
  named := by
    intro row hrow
    have hsymbol : bybit.symbol row = "BTCUSDT" := by
      obtain rfl | rfl := mem_pair.mp hrow <;> rfl
    rw [hsymbol]
    exact ⟨"bybit:perp:BTCUSDT", by rfl⟩
  distinct := by
    intro row hrow other hother _
    obtain rfl | rfl := mem_pair.mp hrow <;> obtain rfl | rfl := mem_pair.mp hother <;> rfl

theorem hedged_getsThrough {size : String} {rows : List PositionRow} {position : Position}
    (hlong : bybit.convert {symbol := "BTCUSDT", positionIdx := 1, side := "Buy", size, avgPrice := "60000" } =
      .ok (some position))
    (hshort : positionMap rows "bybit:perp:BTCUSDT" .short = none) :
    GetsThrough bybit bybitIndex rows (hedged size).message := by
  intro symbol hsymbol id hid
  obtain rfl : symbol = "BTCUSDT" := by
    simpa [hedged, bybit, bybitFeed] using hsymbol
  cases hid.symm.trans (by rfl : instrumentOf bybit bybitIndex "BTCUSDT" = some "bybit:perp:BTCUSDT")
  have hopen := congrArg (fun found => found.toOption.join) hlong
  refine ⟨?_, ⟨_, mem_cons_self, by rw [openPosition, hlong]; rfl⟩, ?_, ?_⟩
  · intro row hrow
    obtain rfl | rfl := mem_pair.mp hrow
    · exact ⟨_, hlong⟩
    · exact ⟨_, by rfl⟩
  · exact pairwise_pair.mpr nofun
  · intro row hrow slot hslot hnone
    obtain rfl | rfl := mem_pair.mp hrow
    · cases hopen.symm.trans (hnone _ mem_cons_self hslot)
    · cases hslot
      exact hshort

theorem hedged_run : RunGetsThrough bybit bybitIndex sortPositions [] [hedged "0.5", hedged "0.7"] :=
  ⟨hedged_getsThrough (by rfl) rfl, fun _ hstep => by
    cases hstep
    exact ⟨hedged_getsThrough (by rfl) (by rfl), fun _ _ => trivial⟩⟩

theorem hedged_followed : RunFollows bybit bybitIndex sortPositions [] [hedged "0.5", hedged "0.7"] :=
  ((position_messages_follow_iff _ _ bybitIndex sortPositions [] nodup_nil).1 _ (by
    intro delivery hdelivery
    obtain rfl | rfl := mem_pair.mp hdelivery <;> exact hedged_names _)).mpr hedged_run

theorem closed_position_stays :
 (handleMessage bybit bybitIndex sortPositions .listed closing.message
  (handleMessage bybit bybitIndex sortPositions .listed opening.message []).2).1.map errorText =
   ["empty account position event has no native instrument"]∧
 (handleMessage bybit bybitIndex sortPositions .listed closing.message
  (handleMessage bybit bybitIndex sortPositions .listed opening.message []).2).2.map PositionRow.size=["0.5"]∧
 ¬RunFollows bybit bybitIndex sortPositions [] [opening,closing]:=by
 refine ⟨by rfl,by rfl,?_⟩
 rintro ⟨-,hrest⟩
 have hnone:=(hrest _ rfl).1.noError
 cases hnone

end BolterTrader.Gateway
