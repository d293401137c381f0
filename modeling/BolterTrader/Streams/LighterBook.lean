import BolterTrader.ExactLookup.Lighter
import BolterTrader.Streams.OrderBook
import BolterTrader.Streams.Subscription

/-! Lighter's order-book stream (`StartOrderBook` in
`exchange/internal/factoryclient/lighter_public_websocket.go`). -/
namespace BolterTrader.Streams.Lighter
open Foundations Foundations.Fallible Exchange Adapters ExactLookup ExactLookup.Lighter List Option
open TypedSubscription (BackendStatus)

/-! ## Messages -/

structure OrderBookLevel where
 price:String:=""
 size:String:=""

structure WsOrderBookEvent where
 channel:String:=""
 type:String:=""
 timestamp:Int:=0
 lastUpdatedAt:Int:=0
 asks:List OrderBookLevel:=[]
 bids:List OrderBookLevel:=[]
 nonce:Int64:=0
 beginNonce:Int64:=0
 bookUpdatedAt:Int:=0

def WsOrderBookEvent.fullBook (row:WsOrderBookEvent):Bool:=row.type == "subscribed/order_book"

def lighterPositiveDecimal (lib:Library) (raw:String):Except String Decimal:=do
 let value ← lighterNonNegativeDecimal lib raw
 refuse (!value.isPositive) "decimal must be positive"
 return value

def lighterWSBookLevel (lib:Library) (row:OrderBookLevel):Except String BookLevel:=do
 let price ← lighterPositiveDecimal lib row.price
 let quantity ← (lighterNonNegativeDecimal lib row.size).mapError fun _ => "invalid book quantity"
 return {price,quantity}

def lighterWSBookLevels (lib:Library) (rows:List OrderBookLevel):Except String (List BookLevel):=
 rows.mapM (lighterWSBookLevel lib)

def lighterWSChannel (channel kind:String) (marketId:Int):Bool:=
 GoText.replaceRune ':' '/' channel == kind ++ "/" ++ GoText.itoa marketId

def firstPositive (values:List Int):Int:=(values.find? (0 < ·)).getD 0

def lighterFlexibleUnix (value:Int):Timestamp:=
 some (if 100000000000<value then value*1000000 else value*1000000000)

def lighterBookEvent (lib:Library) (market:MarketMeta) (row:WsOrderBookEvent):Except String BookEvent:=do
 refuse (!lighterWSChannel row.channel "order_book" market.marketId∨row.nonce.toInt≤0∨
  row.beginNonce.toInt<0∨row.nonce.toInt<row.beginNonce.toInt) "invalid order-book identity"
 let bids ← lighterWSBookLevels lib row.bids
 let asks ← lighterWSBookLevels lib row.asks
 let timestamp:=firstPositive [row.bookUpdatedAt,row.lastUpdatedAt,row.timestamp]
 refuse (timestamp≤0) "invalid order-book timestamp"
 return {
  instrument:=market.instrument
  sequence:=GoText.itoa row.nonce.toInt
  previous:=GoText.itoa row.beginNonce.toInt
  bids
  asks
  time:=lighterFlexibleUnix timestamp}

def eventNonce (event:BookEvent):Int:=Decimal.parseInt64 event.sequence
def eventBeginNonce (event:BookEvent):Int:=Decimal.parseInt64 event.previous

/-! ## The stream -/

inductive Output where
 | event (event:BookEvent) | status (status:BackendStatus) | error (err:Error) | resubscribe

def Output.event?:Output→Option BookEvent
 | .event sent=>some sent
 | _=>none

structure BookStream where
 initialized:Bool:=false
 resyncing:Bool:=false
 lastNonce:Int:=0
 generation:UInt64:=0
 stopped:Bool:=false

inductive StreamEvent where
 | message (payload:Option WsOrderBookEvent)
 | reconnecting (failed:Bool)
 | resubscribeFailed
 | stop

def websocketFailure (product:Product) (kind:ErrorKind) (message:String):Error:=
 websocketError ⟨.lighter,product⟩ "WatchOrderBook" kind message

def lighterReconnectReason (failed:Bool):String:=
 if failed then "Lighter websocket disconnected" else "Lighter websocket reconnecting"

def BookStream.awaits (stream:BookStream):Bool:=!stream.initialized || stream.resyncing

def BookStream.beginGap (stream:BookStream) (reason:String):BookStream×Option (List Output):=
 if stream.resyncing || stream.stopped then (stream,none)
 else
  let generation:=stream.generation+1
  ({stream with resyncing:=true,generation},
   some [.status {state:=.gap,phase:=.started,generation,reason},
    .status {state:=.resyncing,generation,reason}])

def BookStream.handle (stream:BookStream) (event:BookEvent):BookStream×List Output:=
 if stream.stopped then (stream,[])
 else if stream.awaits then
  ({stream with initialized:=true,resyncing:=false,lastNonce:=eventNonce event},
   [.event {event with kind:=.snapshot,resync:=stream.resyncing}] ++
    if stream.resyncing then
     [.status {state:=.active,phase:=.recovered,generation:=stream.generation}]
    else [])
 else if eventNonce event≤ stream.lastNonce then (stream,[])
 else if eventBeginNonce event≠stream.lastNonce then
  let gap:=stream.beginGap "Lighter order-book nonce gap"
  (gap.1,(gap.2.map (· ++ [.resubscribe])).getD [])
 else
  ({stream with lastNonce:=eventNonce event},
   [.event {event with kind:=.delta,previous:=GoText.itoa stream.lastNonce}])

def BookStream.react (lib:Library) (product:Product) (market:MarketMeta) (stream:BookStream):
  StreamEvent→BookStream×List Output
 | .message payload=>
  match payload.map (lighterBookEvent lib market) with
  | some (.ok event)=>stream.handle event
  | _=>(stream,[.error (websocketFailure product .malformedResponse "Lighter websocket payload is malformed")])
 | .reconnecting failed=>
  let gap:=stream.beginGap (lighterReconnectReason failed)
  (gap.1,gap.2.getD [])
 | .resubscribeFailed=>
  (stream,[.error (websocketFailure product .transport "Lighter websocket transport error")])
 | .stop=>({stream with stopped:=true},[])

structure Session where
 stream:BookStream:={}
 sent:List BookEvent:=[]

section
variable (lib:Library) (product:Product) (market:MarketMeta)

def Session.fresh (session:Session) (event:StreamEvent):List BookEvent:=
 (session.stream.react lib product market event).2.filterMap Output.event?

def step (session:Session) (event:StreamEvent):Option Session:=
 some {
  stream:=(session.stream.react lib product market event).1
  sent:=session.sent++session.fresh lib product market event}

end

/-! ## The venue's book -/

abbrev Quantities:=ℚ→Option ℚ

def Quantities.set (side:Quantities) (level:BookLevel):Quantities:=
 Function.update side level.at (if level.quantity.isZero then none else some level.quantity.value)

structure Depth where
 bids:Quantities
 asks:Quantities

def Depth.empty:Depth:=⟨fun _=>none,fun _=>none⟩

def Depth.patch (depth:Depth) (event:BookEvent):Depth:=
 ⟨event.bids.foldl Quantities.set depth.bids,event.asks.foldl Quantities.set depth.asks⟩

def quantities (levels:Levels):Quantities:=fun price=>(levels price).map fun level=>level.quantity.value
def depth (book:Book):Depth:=⟨quantities book.bids,quantities book.asks⟩

theorem quantities_patch (levels:Levels) (changes:List BookLevel):
 quantities (levels.patch changes)=changes.foldl Quantities.set (quantities levels):=by
 induction changes generalizing levels with
 | nil=>rfl
 | cons level rest ih=>
  have hset:quantities (levels.set level)=(quantities levels).set level:=by
   funext price
   simp only[quantities,Levels.set,Quantities.set,Function.update_apply]
   grind
  rw[foldl_cons,←hset]
  exact ih (levels.set level)

theorem depth_patch (book:Book) (event:BookEvent):depth (book.patch event)=(depth book).patch event:=by
 unfold depth Book.patch Depth.patch
 rw[quantities_patch,quantities_patch]

variable {lib:Library} {product:Product} {market:MarketMeta} (venue:Int→Depth)

def Genuine (lib:Library) (market:MarketMeta):StreamEvent→Prop
 | .message (some row)=>∀ event,lighterBookEvent lib market row=.ok event →
  (if row.fullBook then Depth.empty else venue row.beginNonce.toInt).patch event=venue row.nonce.toInt
 | _=>True

def AtVenue (sent:List BookEvent):Prop:=
 (sent.foldl foldBook none).map depth=sent.getLast?.map fun last=>venue (eventNonce last)

def IsFullBook (event:StreamEvent):Prop:=∃ row,event=.message (some row)∧row.fullBook=true

/-- Snapshots come from full books only, and what was sent makes a book of the venue. -/
structure FollowsVenue (lib:Library) (product:Product) (market:MarketMeta) (session:Session)
  (event:StreamEvent):Prop where
 snapshots:∀ sent∈session.fresh lib product market event,sent.kind=.snapshot→IsFullBook event
 book:AtVenue venue (session.sent++session.fresh lib product market event)

def ArrivesInOrder (lib:Library) (market:MarketMeta) (session:Session):StreamEvent→Prop
 | .message (some row)=>∀ event,lighterBookEvent lib market row=.ok event→ session.stream.stopped=false →
  if session.stream.awaits then row.fullBook=true
  else session.stream.lastNonce<row.nonce.toInt→ row.beginNonce.toInt=session.stream.lastNonce →
   (venue row.beginNonce.toInt).patch event=venue row.nonce.toInt
 | _=>True

theorem nonces_of_event {row:WsOrderBookEvent} {event:BookEvent} (h:lighterBookEvent lib market row=.ok event):
 eventNonce event=row.nonce.toInt∧eventBeginNonce event=row.beginNonce.toInt:=by
 obtain ⟨_,hche,h⟩:=bind_eq_ok h
 have hnon:=refuse_eq_ok hche
 obtain ⟨bids,-,h⟩:=bind_eq_ok h
 obtain ⟨asks,-,h⟩:=bind_eq_ok h
 cases past h
 have hn:=Int64.toInt_lt row.nonce
 have hbeg:=Int64.toInt_lt row.beginNonce
 exact ⟨Decimal.parseInt64_itoa (by omega) (by omega),Decimal.parseInt64_itoa (by omega) (by omega)⟩

/-! ## One message -/

variable {venue}

theorem fresh_handle (session:Session) (event:BookEvent):
 (session.stream.handle event).2.filterMap Output.event? =
  if session.stream.stopped then []
  else if session.stream.awaits then [{event with kind:=.snapshot,resync:=session.stream.resyncing}]
  else if session.stream.lastNonce<eventNonce event∧eventBeginNonce event=session.stream.lastNonce then
   [{event with kind:=.delta,previous:=GoText.itoa session.stream.lastNonce}]
  else []:=by
 unfold BookStream.handle
 split
 · rfl
 split
 · cases session.stream.resyncing<;>rfl
 split
 · grind
 split
 · rename_i hgap
   rw[if_neg fun h=>hgap h.2]
   unfold BookStream.beginGap
   split<;>rfl
 · rename_i hnew hcha
   rw[if_pos ⟨Int.not_le.mp hnew,not_not.mp hcha⟩]
   rfl

theorem nonce_of_handle (session:Session) (event:BookEvent):
 if (session.stream.handle event).2.filterMap Output.event?=[] then
  (session.stream.handle event).1.initialized=session.stream.initialized∧
   (session.stream.handle event).1.lastNonce=session.stream.lastNonce
 else (session.stream.handle event).1.lastNonce=eventNonce event:=by
 unfold BookStream.handle
 split
 · exact ⟨rfl,rfl⟩
 split
 · rfl
 split
 · exact ⟨rfl,rfl⟩
 split
 · unfold BookStream.beginGap
   split<;>exact ⟨rfl,rfl⟩
 · rfl

inductive Reaction (lib:Library) (product:Product) (market:MarketMeta) (session:Session):StreamEvent→Prop
 | quiet {event:StreamEvent} (hfresh:session.fresh lib product market event=[])
  (hsame:(session.stream.react lib product market event).1.initialized=session.stream.initialized∧
   (session.stream.react lib product market event).1.lastNonce=session.stream.lastNonce)
  (horder:∀ venue,ArrivesInOrder venue lib market session event):Reaction lib product market session event
 | snapshot {row:WsOrderBookEvent} {event:BookEvent} (hrow:lighterBookEvent lib market row=.ok event)
  (hopen:session.stream.stopped=false) (hawaits:session.stream.awaits=true)
  (hfresh:session.fresh lib product market (.message (some row)) =
   [{event with kind:=.snapshot,resync:=session.stream.resyncing}])
  (hnonce:(session.stream.react lib product market (.message (some row))).1.lastNonce=eventNonce event):
  Reaction lib product market session (.message (some row))
 | delta {row:WsOrderBookEvent} {event:BookEvent} (hrow:lighterBookEvent lib market row=.ok event)
  (hopen:session.stream.stopped=false) (hawaits:session.stream.awaits=false)
  (hnew:session.stream.lastNonce<row.nonce.toInt) (hchained:row.beginNonce.toInt=session.stream.lastNonce)
  (hfresh:session.fresh lib product market (.message (some row)) =
   [{event with kind:=.delta,previous:=GoText.itoa session.stream.lastNonce}])
  (hnonce:(session.stream.react lib product market (.message (some row))).1.lastNonce=eventNonce event):
  Reaction lib product market session (.message (some row))

theorem reaction (lib:Library) (product:Product) (market:MarketMeta) (session:Session) (event:StreamEvent):
 Reaction lib product market session event:=by
 cases event with
 | message payload=>
  cases payload with
  | none=>exact .quiet rfl ⟨rfl,rfl⟩ fun _=>trivial
  | some row=>
   cases hrow : lighterBookEvent lib market row with
   | error=>
    have hrea:session.stream.react lib product market (.message (some row))=(session.stream,
      [.error (websocketFailure product .malformedResponse "Lighter websocket payload is malformed")]):=by
     simp[BookStream.react,hrow]
    refine .quiet ?_ ?_ fun venue event hev=>absurd (hrow.symm.trans hev) nofun
    · rw[Session.fresh,hrea]
      rfl
    · grind
   | ok event=>
    have hrea:session.stream.react lib product market (.message (some row))=session.stream.handle event:=by
     simp[BookStream.react,hrow]
    have hfr:session.fresh lib product market (.message (some row))=_:=
     (congrArg (fun reaction=>reaction.2.filterMap Output.event?) hrea).trans (fresh_handle session event)
    have hn:=nonce_of_handle session event
    rw[←hrea] at hn
    obtain ⟨hroNo,hroBe⟩:=nonces_of_event hrow
    split at hfr
    · rename_i hsto
      exact .quiet hfr ((if_pos hfr).mp hn) fun _ _ _ hopen=>absurd hsto (by simp[hopen])
    rename_i hsto
    have hopen:=eq_false_of_ne_true hsto
    split at hfr
    · rename_i hawa
      have hsent:session.fresh lib product market (.message (some row))≠[]:=hfr▸cons_ne_nil _ _
      exact .snapshot hrow hopen hawa hfr ((if_neg hsent).mp hn)
    rename_i hawa
    split at hfr
    · rename_i hnext
      have hsent:session.fresh lib product market (.message (some row))≠[]:=hfr▸cons_ne_nil _ _
      rw[hroNo,hroBe] at hnext
      exact .delta hrow hopen (eq_false_of_ne_true hawa) hnext.1 hnext.2 hfr ((if_neg hsent).mp hn)
    · rename_i hnext
      refine .quiet hfr ((if_pos hfr).mp hn) ?_
      intro venue other hoth _
      grind
 | reconnecting failed=>
  have hqt:session.fresh lib product market (.reconnecting failed)=[]∧
    (session.stream.react lib product market (.reconnecting failed)).1.initialized=session.stream.initialized∧
    (session.stream.react lib product market (.reconnecting failed)).1.lastNonce=session.stream.lastNonce:=by
   unfold Session.fresh BookStream.react BookStream.beginGap
   dsimp only
   split<;>exact ⟨rfl,rfl,rfl⟩
  exact .quiet hqt.1 hqt.2 fun _=>trivial
 | resubscribeFailed | stop=>exact .quiet rfl ⟨rfl,rfl⟩ fun _=>trivial

/-! ## Runs -/

variable {session:Session} {event:StreamEvent}

structure Tracks (venue:Int→Depth) (session:Session):Prop where
 book:AtVenue venue session.sent
 nonce:session.stream.initialized=true→ session.sent.getLast?.map eventNonce=some session.stream.lastNonce

theorem atVenue_snapshot {sent:List BookEvent} {next:BookEvent} (hkind:next.kind=.snapshot):
 AtVenue venue (sent++[next]) ↔ Depth.empty.patch next=venue (eventNonce next):=by
 have hfold:((sent++[next]).foldl foldBook none).map depth=some (Depth.empty.patch next):=by
  rw[foldl_append,foldl_cons,foldl_nil,foldBook,hkind,map_some,depth_patch]
  rfl
 rw[AtVenue,hfold,List.getLast?_concat,map_some,some.injEq]

theorem atVenue_delta {sent:List BookEvent} {next last:BookEvent} (hbook:AtVenue venue sent)
 (hlast:sent.getLast?=some last) (hkind:next.kind=.delta):
 AtVenue venue (sent++[next]) ↔ (venue (eventNonce last)).patch next=venue (eventNonce next):=by
 rw[AtVenue,hlast,map_some] at hbook
 obtain ⟨book,hfold,hdep⟩:=map_eq_some_iff.mp hbook
 have hnext:((sent++[next]).foldl foldBook none).map depth=some ((venue (eventNonce last)).patch next):=by
  grind [foldBook,depth_patch]
 rw[AtVenue,hnext,List.getLast?_concat,map_some,some.injEq]

theorem followsVenue_iff (h:Tracks venue session) (hgen:Genuine venue lib market event):
 FollowsVenue venue lib product market session event ↔ ArrivesInOrder venue lib market session event:=by
 cases reaction lib product market session event with
 | quiet hfr _ hord=>
  refine ⟨fun _=>hord venue,fun _=>⟨by simp[hfr],?_⟩⟩
  rw[hfr,append_nil]
  exact h.book
 | @snapshot row event hrow hopen hawa hfr=>
  constructor
  · intro hfol other _ _
    obtain ⟨full,hfull,hbook⟩:=hfol.snapshots _ (hfr▸mem_singleton_self _) rfl
    grind
  · intro hord
    have hfull:row.fullBook=true:=(if_pos hawa).mp (hord event hrow hopen)
    refine ⟨fun _ _ _=>⟨row,rfl,hfull⟩,?_⟩
    rw[hfr,atVenue_snapshot rfl]
    have hbook:=hgen event hrow
    rw[if_pos hfull,←(nonces_of_event hrow).1] at hbook
    exact hbook
 | @delta row event hrow hopen hawa hnew hcha hfr _=>
  have hini:session.stream.initialized=true:=by
   unfold BookStream.awaits at hawa
   simp_all
  obtain ⟨last,hlast,hn⟩:=map_eq_some_iff.mp (h.nonce hini)
  have hbook:AtVenue venue (session.sent++session.fresh lib product market (.message (some row))) ↔
    (venue row.beginNonce.toInt).patch event=venue row.nonce.toInt:=by
   rw[hfr,atVenue_delta h.book hlast rfl,hn,←hcha,←(nonces_of_event hrow).1]
   rfl
  constructor
  · intro hfol other hoth _
    cases hrow.symm.trans hoth
    rw[if_neg (by simp[hawa])]
    exact fun _ _=>hbook.mp hfol.book
  · intro hord
    have hpat:=(if_neg (by simp[hawa])).mp (hord event hrow hopen)
    refine ⟨?_,hbook.mpr (hpat hnew hcha)⟩
    grind

theorem Tracks.next (h:Tracks venue session) (hfol:FollowsVenue venue lib product market session event)
 {next:Session} (hstep:step lib product market session event=some next):Tracks venue next:=by
 cases hstep
 refine ⟨hfol.book,?_⟩
 intro hini
 cases reaction lib product market session event with
 | quiet hfr hsame=>
  dsimp only at hini ⊢
  rw[hfr,append_nil,hsame.2]
  exact h.nonce (hsame.1▸hini)
 | snapshot _ _ _ hfr hn | delta _ _ _ _ _ hfr hn=>
  dsimp only
  rw[hfr,hn,List.getLast?_concat]
  rfl

theorem tracks_initial:Tracks venue {}:=⟨rfl,nofun⟩

/-- The book sent on is the book of the venue exactly along calm runs. -/
theorem lighter_book_follows_venue_iff (venue:Int→Depth) (lib:Library) (product:Product) (market:MarketMeta)
 (events:List StreamEvent) (hgenuine:∀ event∈events,Genuine venue lib market event):
 Transition.Along (step lib product market) (FollowsVenue venue lib product market) {} events ↔
  Transition.Along (step lib product market) (ArrivesInOrder venue lib market) {} events:=
 Transition.along_congr_of_invariant (Tracks venue) (fun _ _ _ h hfol hstep=>h.next hfol hstep)
  (fun _ event hev h=>followsVenue_iff h (hgenuine event hev)) tracks_initial

/-! ## A subscription that misses a change -/

def ethMarket:MarketMeta:=⟨ethSpot,2048,by decide⟩

def bookMessage (type:String) (beginNonce nonce:Int64) (bids:List OrderBookLevel):WsOrderBookEvent:=
 {channel:="order_book:2048",type,timestamp:=1700000000000,bids,nonce,beginNonce}

def fullBook10:WsOrderBookEvent:=bookMessage "subscribed/order_book" 10 10 [⟨"2000","2"⟩,⟨"1999","5"⟩]
def change11:WsOrderBookEvent:=bookMessage "update/order_book" 10 11 [⟨"2001","1"⟩]
def change12:WsOrderBookEvent:=bookMessage "update/order_book" 11 12 [⟨"2002","1"⟩]
def change13:WsOrderBookEvent:=bookMessage "update/order_book" 12 13 [⟨"2003","1"⟩]
def decoded (row:WsOrderBookEvent):BookEvent:=(lighterBookEvent asciiLibrary ethMarket row).toOption.getD {}

def venueBook (nonce:Int):Depth:=
 (([change11,change12,change13].filter fun row=>row.nonce.toInt≤nonce).map decoded).foldl Depth.patch
  (Depth.empty.patch (decoded fullBook10))

theorem genuine_of_decoded {row:WsOrderBookEvent} (hrow:lighterBookEvent asciiLibrary ethMarket row=.ok (decoded row))
 (hbook:(if row.fullBook then Depth.empty else venueBook row.beginNonce.toInt).patch (decoded row) =
  venueBook row.nonce.toInt):Genuine venueBook asciiLibrary ethMarket (.message (some row)):=by
 intro event hev
 grind

theorem venueBook_genuine:∀ row∈[fullBook10,change11,change12,change13],
 Genuine venueBook asciiLibrary ethMarket (.message (some row)):=by
 intro row hrow
 simp only[mem_cons,not_mem_nil,or_false] at hrow
 rcases hrow with rfl | rfl | rfl | rfl<;>exact genuine_of_decoded rfl rfl

theorem messages_genuine (rows:List WsOrderBookEvent)
 (h:∀ row∈rows,row∈[fullBook10,change11,change12,change13]):
 ∀ event∈rows.map fun row=>.message (some row),Genuine venueBook asciiLibrary ethMarket event:=by
 intro event hev
 obtain ⟨row,hrow,rfl⟩:=mem_map.mp hev
 exact venueBook_genuine row (h row hrow)

def inOrder:List StreamEvent:=[.message (some fullBook10),.message (some change11),.message (some change12)]

theorem in_order_follows :
 Transition.Along (step asciiLibrary .spot ethMarket) (FollowsVenue venueBook asciiLibrary .spot ethMarket) {}
  inOrder:=by
 refine (lighter_book_follows_venue_iff venueBook asciiLibrary .spot ethMarket inOrder
  (messages_genuine [fullBook10,change11,change12] (by simp))).mpr ?_
 refine .cons rfl (fun _ _ _=>rfl) (.cons rfl ?_ (.cons rfl ?_ trivial))
 · intro event hev _ _ _
   cases hev
   rfl
 · intro event hev _ _ _
   cases hev
   rfl

def changeLost:List StreamEvent:=[.message (some fullBook10),.message (some change12),.message (some change13)]

theorem change_taken_for_book :
 (∀ event∈changeLost,Genuine venueBook asciiLibrary ethMarket event)∧
 (Transition.run (step asciiLibrary .spot ethMarket) {} changeLost).map (fun session=>
  session.sent.map fun event=>(event.kind,event.sequence,event.bids.length)) =
   some [(.snapshot,"10",2),(.snapshot,"13",1)]∧
 change13.fullBook=false∧
 ¬Transition.Along (step asciiLibrary .spot ethMarket) (FollowsVenue venueBook asciiLibrary .spot ethMarket) {}
  changeLost:=by
 refine ⟨messages_genuine [fullBook10,change12,change13] (by simp),by rfl,by rfl,?_⟩
 rintro ⟨-,haft⟩
 obtain ⟨-,hafte⟩:=haft _ rfl
 obtain ⟨hfol,-⟩:=hafte _ rfl
 obtain ⟨row,hrow,hfull⟩:=hfol.snapshots _ mem_cons_self rfl
 cases hrow
 exact absurd hfull (by decide)

end BolterTrader.Streams.Lighter
