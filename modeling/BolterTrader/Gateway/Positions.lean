import BolterTrader.Gateway.AccountState

/-! The position rows of a market as a map from instrument and slot to row. -/
namespace BolterTrader.Gateway
open Foundations Foundations.KeyedRows Exchange List

/-! ## The map -/

abbrev PositionMap:=String→PositionSlot→Option PositionRow

def PositionMap.apply (map:PositionMap) (id:String) (event:PositionEvent):PositionMap:=
 fun instrument slot=>
  if instrument≠id then map instrument slot
  else match last? Position.positionSlot event.positions slot with
   | some position=>projectPosition id position
   | none=>if event.kind=.snapshot then none else map instrument slot

def PositionRow.key (row:PositionRow):String×PositionSlot:=(row.instrument,row.slot)

def positionMap (rows:List PositionRow):PositionMap:=
 fun instrument slot=>last? PositionRow.key rows (instrument,slot)

/-! ## One event -/

theorem key_of_projectPosition {id:String} (position:Position) (row:PositionRow)
 (h:projectPosition id position=some row):row.key=(id,position.positionSlot):=by
 unfold projectPosition at h
 split at h<;>cases h
 rfl

theorem positionMap_projected {poss:List Position} (hslots:Unique Position.positionSlot poss)
 (id ins:String) (slot:PositionSlot):
 positionMap (poss.filterMap (projectPosition id)) ins slot =
  if ins=id then (last? Position.positionSlot poss slot).bind (projectPosition id) else none:=by
 by_cases hid:ins=id
 · subst hid
   have htags:=(hslots.map_injective (Prod.mk_right_injective ins)).writtenLast (projectPosition ins)
   rw[if_pos rfl,positionMap,htags.last?_filterMap key_of_projectPosition,
    last?_map_injective (Prod.mk_right_injective ins)]
 · rw[if_neg hid]
   refine last?_eq_none_iff.mpr ?_
   intro row hrow hkey
   obtain ⟨position,-,hpos⟩:=mem_filterMap.mp hrow
   rw[key_of_projectPosition position row hpos] at hkey
   grind

def keepsKey (id:String) (event:PositionEvent) (key:String×PositionSlot):Bool:=
 key.1≠id || event.kind≠.snapshot && !(event.positions.map (·.positionSlot)).contains key.2

theorem keepsKey_listed {id:String} {event:PositionEvent} {slot:PositionSlot} {position:Position}
 (h:last? Position.positionSlot event.positions slot=some position):keepsKey id event (id,slot)=false:=by
 have hmem:slot∈event.positions.map (·.positionSlot):=key_of_last? h▸mem_map_of_mem (mem_of_last? h)
 simpa[keepsKey] using fun _=>mem_map.mp hmem

theorem keepsKey_unlisted {id:String} {event:PositionEvent} {slot:PositionSlot}
 (h:last? Position.positionSlot event.positions slot=none):
 keepsKey id event (id,slot)=decide (event.kind≠.snapshot):=by
 have hnot:slot∉event.positions.map (·.positionSlot):=by
  grind [mem_map.mp,last?_eq_none_iff.mp]
 simp[keepsKey,hnot]

section
variable (sort:SliceSort positionLess) {rows:List PositionRow} {event:PositionEvent}
 (hrows:Unique PositionRow.key rows) (hslots:Unique Position.positionSlot event.positions) (id:String)
include hrows hslots

theorem unique_kept_projected:Unique PositionRow.key
 (rows.filter (fun row=>keepsKey id event row.key)++event.positions.filterMap (projectPosition id)):=by
 have hpro:Unique PositionRow.key (event.positions.filterMap (projectPosition id)):=
  ((hslots.map_injective (Prod.mk_right_injective id)).writtenLast _).unique_filterMap key_of_projectPosition
 refine unique_append (hrows.filter _) hpro ?_
 intro kept hkept prj hmem hsame
 obtain ⟨held,hpos,hrow⟩:=mem_filterMap.mp hmem
 have hkee:keepsKey id event kept.key=true:=(mem_filter.mp hkept).2
 rw[hsame,key_of_projectPosition held prj hrow] at hkee
 -- A kept row never has the slot of a listed position.
 have hlis:(last? Position.positionSlot event.positions held.positionSlot).isSome:=
  last?_isSome_of_mem hpos
 obtain ⟨fnd,hfd⟩:=Option.isSome_iff_exists.mp hlis
 rw[keepsKey_listed hfd] at hkee
 exact Bool.false_ne_true hkee

theorem unique_foldPositions:Unique PositionRow.key (foldPositions sort rows id event):=
 (unique_kept_projected hrows hslots id).perm (sort.perm _)

theorem positionMap_foldPositions :
 positionMap (foldPositions sort rows id event)=(positionMap rows).apply id event:=by
 funext instrument slot
 have hsor:positionMap (foldPositions sort rows id event) instrument slot=_:=
  (unique_kept_projected hrows hslots id).last?_perm (sort.perm _) (instrument,slot)
 have hpro:=positionMap_projected hslots id instrument slot
 unfold positionMap at hpro
 rw[hsor,last?_append,last?_filter,hpro,PositionMap.apply]
 by_cases hid:instrument=id
 · subst hid
   cases hlis : last? Position.positionSlot event.positions slot with
   | some=>simp[keepsKey_listed hlis]
   | none=>simp[keepsKey_unlisted hlis,positionMap]
 · simp[hid,keepsKey,positionMap]

end

/-! ## Events of several instruments -/

def foldEvents (sort:SliceSort positionLess) (rows:List PositionRow) (events:List (String×PositionEvent)):
 List PositionRow:=
 events.foldl (fun rows event=>foldPositions sort rows event.1 event.2) rows

section
variable {sort:SliceSort positionLess} {rows:List PositionRow} {events:List (String×PositionEvent)}

theorem unique_foldEvents (hrows:Unique PositionRow.key rows)
 (hslots:∀ event∈events,Unique Position.positionSlot event.2.positions):
 Unique PositionRow.key (foldEvents sort rows events):=by
 induction events generalizing rows with
 | nil=>exact hrows
 | cons event rest ih=>
  obtain ⟨hev,hrest⟩:=forall_mem_cons.mp hslots
  exact ih (unique_foldPositions sort hrows hev event.1) hrest

theorem positionMap_foldEvents_of_notMem (hrows:Unique PositionRow.key rows)
 (hslots:∀ event∈events,Unique Position.positionSlot event.2.positions) {id:String}
 (hid:id∉events.map Prod.fst) (slot:PositionSlot):
 positionMap (foldEvents sort rows events) id slot=positionMap rows id slot:=by
 induction events generalizing rows with
 | nil=>rfl
 | cons event rest ih=>
  obtain ⟨hev,hrest⟩:=forall_mem_cons.mp hslots
  obtain ⟨hfst,hlat⟩:=not_or.mp (mt mem_cons.mpr hid)
  rw[foldEvents,foldl_cons]
  refine (ih (unique_foldPositions sort hrows hev event.1) hrest hlat).trans ?_
  rw[positionMap_foldPositions sort hrows hev event.1,PositionMap.apply,if_pos hfst]

theorem positionMap_foldEvents_of_mem (hrows:Unique PositionRow.key rows)
 (hslots:∀ event∈events,Unique Position.positionSlot event.2.positions)
 (hids:(events.map Prod.fst).Nodup) {id:String} {event:PositionEvent} (hmem:(id,event)∈events)
 (slot:PositionSlot):
 positionMap (foldEvents sort rows events) id slot=(positionMap rows).apply id event id slot:=by
 induction events generalizing rows with
 | nil=>cases hmem
 | cons head rest ih=>
  obtain ⟨hfst,hrest⟩:=forall_mem_cons.mp hslots
  obtain ⟨hnew,hids⟩:=nodup_cons.mp hids
  have hunique:=unique_foldPositions sort hrows hfst head.1
  rw[foldEvents,foldl_cons]
  obtain heq | hmem:=mem_cons.mp hmem
  · subst heq
    refine (positionMap_foldEvents_of_notMem hunique hrest hnew slot).trans ?_
    rw[positionMap_foldPositions sort hrows hfst]
  · have hne:id≠head.1:=fun h=>hnew (h▸mem_map_of_mem hmem)
    refine (ih hunique hrest hids hmem).trans ?_
    rw[positionMap_foldPositions sort hrows hfst]
    simp[PositionMap.apply,hne]

theorem subperm_foldPositions {part:List PositionRow} {id:String} {event:PositionEvent}
 (hpart:part.Subperm rows) (hoth:∀ row∈part,row.instrument≠id):
 part.Subperm (foldPositions sort rows id event):=by
 have hkept:=hpart.filter fun row=>keepsKey id event row.key
 rw[filter_eq_self.mpr (fun row hrow=>by simp[keepsKey,PositionRow.key,hoth row hrow])] at hkept
 exact (hkept.trans (sublist_append_left _ _).subperm).trans (sort.perm _).symm.subperm

theorem subperm_foldEvents {part:List PositionRow} {id:String} (hpart:part.Subperm rows)
 (hins:∀ row∈part,row.instrument=id) (hid:id∉events.map Prod.fst):
 part.Subperm (foldEvents sort rows events):=by
 induction events generalizing rows with
 | nil=>exact hpart
 | cons head rest ih=>
  obtain ⟨hfst,hrest⟩:=not_or.mp (mt mem_cons.mpr hid)
  exact ih (subperm_foldPositions hpart fun row hrow=>hins row hrow▸hfst) hrest

theorem projected_subperm_foldEvents (hids:(events.map Prod.fst).Nodup) {id:String} {event:PositionEvent}
 (hmem:(id,event)∈events):
 (event.positions.filterMap (projectPosition id)).Subperm (foldEvents sort rows events):=by
 induction events generalizing rows with
 | nil=>cases hmem
 | cons head rest ih=>
  obtain ⟨hnew,hids⟩:=nodup_cons.mp hids
  obtain heq | hmem:=mem_cons.mp hmem
  · subst heq
    have hadd:(event.positions.filterMap (projectPosition id)).Subperm (foldPositions sort rows id event):=
     (sublist_append_right _ _).subperm.trans (sort.perm _).symm.subperm
    apply subperm_foldEvents hadd ?_ hnew
    intro row hrow
    obtain ⟨position,-,hpos⟩:=mem_filterMap.mp hrow
    exact congrArg Prod.fst (key_of_projectPosition position row hpos)
  · exact ih hids hmem

end

/-! ## Runs -/

structure PositionUpdate where
 market:Market
 id:String
 event:PositionEvent

def Runtime.applyPositionUpdates (sort:SliceSort positionLess) (rt:Runtime) (updates:List PositionUpdate):
 Runtime:=
 updates.foldl (fun rt update=>rt.applyPositionEvent sort update.market update.id update.event) rt

def Runtime.positionMaps (rt:Runtime):Market→PositionMap:=fun market=>positionMap (rt.positions market)

def applyToMaps (maps:Market→PositionMap) (update:PositionUpdate):Market→PositionMap:=
 Function.update maps update.market ((maps update.market).apply update.id update.event)

theorem positions_applyPositionEvent (sort:SliceSort positionLess) (rt:Runtime) (upd:PositionUpdate)
 (market:Market):(rt.applyPositionEvent sort upd.market upd.id upd.event).positions market =
  if market=upd.market then foldPositions sort (rt.positions market) upd.id upd.event
  else rt.positions market:=by
 by_cases h:market=upd.market
 · subst h
   simp[Runtime.applyPositionEvent]
 · simp[Runtime.applyPositionEvent,h]

theorem positionMaps_applyPositionEvent (sort:SliceSort positionLess) {rt:Runtime} {update:PositionUpdate}
 (hrows:∀ market,Unique PositionRow.key (rt.positions market))
 (hslots:Unique Position.positionSlot update.event.positions):
 (rt.applyPositionEvent sort update.market update.id update.event).positionMaps =
  applyToMaps rt.positionMaps update:=by
 funext market
 unfold Runtime.positionMaps applyToMaps
 rw[positions_applyPositionEvent]
 by_cases h:market=update.market
 · subst h
   rw[if_pos rfl,Function.update_self]
   exact positionMap_foldPositions sort (hrows _) hslots update.id
 · grind

/-- The rows refine a map from instrument and slot to position. -/
theorem applyPositionUpdates_refines (sort:SliceSort positionLess) (rt:Runtime) (updates:List PositionUpdate)
 (hrows:∀ market,Unique PositionRow.key (rt.positions market))
 (hslots:∀ update∈updates,Unique Position.positionSlot update.event.positions):
 (rt.applyPositionUpdates sort updates).positionMaps=updates.foldl applyToMaps rt.positionMaps∧
 (∀ market,Unique PositionRow.key ((rt.applyPositionUpdates sort updates).positions market))∧
 ∀ market,(SortedBy positionLess (rt.positions market)∨∃ update∈updates,update.market=market) →
  SortedBy positionLess ((rt.applyPositionUpdates sort updates).positions market):=by
 induction updates generalizing rt with
 | nil=>exact ⟨rfl,hrows,fun market h=>h.elim id (by simp)⟩
 | cons update rest ih=>
  have hstep:=hslots update mem_cons_self
  have hnext:∀ market,Unique PositionRow.key
    ((rt.applyPositionEvent sort update.market update.id update.event).positions market):=by
   intro market
   rw[positions_applyPositionEvent]
   split
   · exact unique_foldPositions sort (hrows market) hstep update.id
   · exact hrows market
  obtain ⟨hmaps,hunique,hsor⟩:=ih _ hnext fun later h=>hslots later (mem_cons_of_mem update h)
  refine ⟨?_,hunique,?_⟩
  · rw[foldl_cons,←positionMaps_applyPositionEvent sort hrows hstep]
    exact hmaps
  · intro market h
    apply hsor market
    rw[positions_applyPositionEvent]
    by_cases hmk:market=update.market
    · left
      rw[if_pos hmk]
      exact sort.sorted _
    · grind

def hedgedUpdates:List PositionUpdate:=
 let bybit : Market:=⟨.bybit,.perp,"USDT"⟩
 let leg (slot:PositionSlot) (quantity:Int):Position:={positionSlot:=slot,quantity:=⟨quantity,0⟩}
 [⟨bybit,"bybit:perp:BTCUSDT",{kind:=.snapshot,positions:=[leg .short 2,leg .long 5]}⟩,
  ⟨bybit,"bybit:perp:BTCUSDT",{kind:=.delta,positions:=[leg .long 0]}⟩]

theorem hedgedUpdates_refine :
 ({ }:Runtime).positionMaps=(fun _ _ _=>none)∧
 (({ }:Runtime).applyPositionUpdates sortPositions hedgedUpdates).positionMaps =
  hedgedUpdates.foldl applyToMaps ({ }:Runtime).positionMaps∧
 (hedgedUpdates.foldl applyToMaps ({ }:Runtime).positionMaps ⟨.bybit,.perp,"USDT"⟩
  "bybit:perp:BTCUSDT" .short).map PositionRow.size=some "2"∧
 hedgedUpdates.foldl applyToMaps ({ }:Runtime).positionMaps ⟨.bybit,.perp,"USDT"⟩
  "bybit:perp:BTCUSDT" .long=none:=by
 have hslots:∀ update∈hedgedUpdates,Unique Position.positionSlot update.event.positions:=by
  decide
 refine ⟨rfl,?_,by decide,by decide⟩
 exact (applyPositionUpdates_refines sortPositions { } hedgedUpdates (fun _=>nodup_nil) hslots).1

end BolterTrader.Gateway
