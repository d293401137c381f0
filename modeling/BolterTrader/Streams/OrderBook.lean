import BolterTrader.Adapters.NativeErrors
import BolterTrader.Exchange.Accounts
import BolterTrader.Foundations.DecimalText
import BolterTrader.Streams.Topic

/-! The order-book contract between the venues' streams and the subscribers
(`exchange/internal/factoryclient/order_book_contract.go`), and the topic that
shares it. -/
namespace BolterTrader.Streams
open Foundations Foundations.KeyedRows Exchange Adapters List Option

structure BookLevel where
 price:Decimal:={}
 quantity:Decimal:={}

structure BookEvent where
 kind:EventKind:=.unset
 instrument:Instrument:={}
 sequence:String:=""
 previous:String:=""
 resync:Bool:=false
 bids:List BookLevel:=[]
 asks:List BookLevel:=[]
 time:Timestamp:=none

/-! ## Sides -/

def BookLevel.key (level:BookLevel):String:=level.price.toText

def patchLevel (current:List BookLevel) (level:BookLevel):List BookLevel:=
 if level.quantity.isZero then erase BookLevel.key current level.key else put BookLevel.key current level

def patchBookSide (current levels:List BookLevel):List BookLevel:=levels.foldl patchLevel current
def replaceBookSide (levels:List BookLevel):List BookLevel:=patchBookSide [] levels

def levelLess (descending:Bool) (a b:BookLevel):Bool:=
 if descending then b.price.lessThan a.price else a.price.lessThan b.price

/-! ## The contract -/

structure OrderBookContract where
 client:ClientMeta
 instrument:Instrument
 started:Bool:=false
 sequence:String:=""
 observed:Timestamp:=none
 bids:List BookLevel:=[]
 asks:List BookLevel:=[]

def websocketError (client:ClientMeta) (operation:String) (kind:ErrorKind) (message:String):Error:=
 { kind
   details:={venue:=client.venue,product:=client.product,operation,safeMessage:=message}}

def sameOrderBookInstrument (expected actual:Instrument):Bool:=
 let left:=expected.identity
 let right:=actual.identity
 if left.venue≠right.venue∨left.product≠right.product then false
 else if left.nativeId≠""∨right.nativeId≠"" then left.nativeId≠"" && left.nativeId == right.nativeId
 else left.nativeSymbol≠"" && left.nativeSymbol == right.nativeSymbol

def levelViolation (kind:EventKind) (side:String) (level:BookLevel):Option String:=
 if !level.price.isPositive then some (side ++ " price must be positive")
 else if level.quantity.isNegative then some (side ++ " quantity must not be negative")
 else if (kind=.snapshot∨kind=.full)∧level.quantity.isZero then
  some (side ++ " complete-book quantity must be positive")
 else none

def validateOrderBookLevels (kind:EventKind) (levels:List BookLevel) (side:String):Option String:=
 levels.findSome? (levelViolation kind side)

def parseUint64? (s:String):Option ℕ:=(Decimal.nat? s.toList).filter (· < 18446744073709551616)

def staleSequence (left right:String):Bool:=
 match parseUint64? left,parseUint64? right with
 | some leftValue,some rightValue=>leftValue≤rightValue
 | _,_=>false

namespace OrderBookContract

def violation (contract:OrderBookContract) (message:String):Error:=
 websocketError contract.client "WatchOrderBook" .malformedResponse message

def shapeViolation (contract:OrderBookContract) (event:BookEvent):Option String:=
 if event.kind=.unset then some "event kind must be snapshot, delta, or full"
 else if !sameOrderBookInstrument contract.instrument event.instrument then
  some "event instrument does not match subscription"
 else (validateOrderBookLevels event.kind event.bids "bid").or <|
  (validateOrderBookLevels event.kind event.asks "ask").or <|
   if GoText.trimSpace event.previous≠""∧GoText.trimSpace event.sequence="" then
    some "predecessor requires a sequence"
   else none

def replace (contract:OrderBookContract) (event:BookEvent):OrderBookContract:=
 {contract with
   started:=true
   sequence:=GoText.trimSpace event.sequence
   observed:=event.time
   bids:=replaceBookSide event.bids
   asks:=replaceBookSide event.asks}

def patch (contract:OrderBookContract) (event:BookEvent):OrderBookContract:=
 {contract with
   started:=true
   sequence:=GoText.trimSpace event.sequence
   observed:=event.time
   bids:=patchBookSide contract.bids event.bids
   asks:=patchBookSide contract.asks event.asks}

def accept (contract:OrderBookContract) (event:BookEvent):OrderBookContract×Except Error Bool:=
 let sequence:=GoText.trimSpace event.sequence
 let previous:=GoText.trimSpace event.previous
 match contract.shapeViolation event with
 | some message=>(contract,.error (contract.violation message))
 | none=>
  if event.kind=.snapshot∨event.kind=.full then (contract.replace event,.ok true)
  else if !contract.started then
   (contract,.error (contract.violation "delta arrived before a snapshot or full book"))
  else if sequence≠""∧contract.sequence≠""∧staleSequence sequence contract.sequence then
   (contract,.ok false)
  else if previous≠""∧contract.sequence≠""∧previous≠contract.sequence then
   (contract,.error (contract.violation "delta predecessor does not match the last sequence"))
  else (contract.patch event,.ok true)

def snapshot (sort:∀ descending,SliceSort (levelLess descending)) (contract:OrderBookContract):
 Option BookEvent:=
 if !contract.started then none
 else
  some {
   kind:=.snapshot
   instrument:=contract.instrument
   sequence:=contract.sequence
   bids:=(sort true).sort contract.bids
   asks:=(sort false).sort contract.asks
   time:=contract.observed}

end OrderBookContract

def orderBookTopic (sort:∀ descending,SliceSort (levelLess descending)):
  Processing OrderBookContract BookEvent Error where
 process:=OrderBookContract.accept
 replay:=OrderBookContract.snapshot sort

/-! ## The book as a map by price -/

abbrev Levels:=ℚ→Option BookLevel
def BookLevel.at (level:BookLevel):ℚ:=level.price.value

def Levels.set (levels:Levels) (level:BookLevel):Levels:=
 Function.update levels level.at (if level.quantity.isZero then none else some level)

def Levels.patch (levels:Levels) (changes:List BookLevel):Levels:=changes.foldl Levels.set levels

structure Book where
 bids:Levels
 asks:Levels

def Book.empty:Book:=⟨fun _=>none,fun _=>none⟩
def Book.patch (book:Book) (event:BookEvent):Book:=⟨book.bids.patch event.bids,book.asks.patch event.asks⟩

def foldBook (book:Option Book) (event:BookEvent):Option Book:=
 match event.kind with
 | .snapshot | .full=>some (Book.empty.patch event)
 | .delta=>book.map fun book=>book.patch event
 | .unset=>book

def levelAt (levels:List BookLevel):Levels:=last? BookLevel.at levels
def BookEvent.shown (event:BookEvent):Book:=⟨levelAt event.bids,levelAt event.asks⟩

def OrderBookContract.book (contract:OrderBookContract):Option Book:=
 if contract.started then some ⟨levelAt contract.bids,levelAt contract.asks⟩ else none

/-! The keys of the maps are texts; they stand for the prices. -/

theorem key_eq_key_iff (a b:BookLevel):a.key=b.key ↔ a.at=b.at:=Decimal.toText_eq_toText_iff a.price b.price

theorem erase_key (levels:List BookLevel) (level:BookLevel):
 erase BookLevel.key levels level.key=erase BookLevel.at levels level.at:=by
 unfold erase
 refine filter_congr fun other _=>?_
 simp only[ne_eq,key_eq_key_iff]

theorem put_key (levels:List BookLevel) (level:BookLevel):
 put BookLevel.key levels level=put BookLevel.at levels level:=by
 rw[put,put,erase_key]

theorem levelAt_patchLevel (levels:List BookLevel) (level:BookLevel):
 levelAt (patchLevel levels level)=(levelAt levels).set level:=by
 funext price
 unfold patchLevel Levels.set levelAt
 by_cases hzero:level.quantity.isZero
 · rw[if_pos hzero,if_pos hzero,erase_key,last?_erase,Function.update_apply]
 · grind [put_key,last?_put]

theorem levelAt_patchBookSide (current levels:List BookLevel):
 levelAt (patchBookSide current levels)=(levelAt current).patch levels:=by
 induction levels generalizing current with
 | nil=>rfl
 | cons level rest ih=>
  have hstep:=ih (patchLevel current level)
  rw[levelAt_patchLevel] at hstep
  exact hstep

/-! ## Sides of a contract -/

structure SoundSide (levels:List BookLevel):Prop where
 unique:Unique BookLevel.at levels
 positive:∀ level∈levels,level.price.isPositive∧level.quantity.isPositive

variable {levels:List BookLevel}

theorem SoundSide.patchLevel (h:SoundSide levels) {level:BookLevel} (hpr:level.price.isPositive)
 (hq:¬level.quantity.isNegative):SoundSide (patchLevel levels level):=by
 unfold Streams.patchLevel
 by_cases hzero:level.quantity.isZero
 · rw[if_pos hzero,erase_key]
   exact ⟨h.unique.erase level.at,fun other hoth=>h.positive other (mem_of_mem_filter hoth)⟩
 · rw[if_neg hzero,put_key]
   refine ⟨h.unique.put level,?_⟩
   intro other hoth
   rcases mem_append.mp hoth with hold | hnew
   · exact h.positive other (mem_of_mem_filter hold)
   · grind [Decimal.isNegative,Decimal.isZero,Decimal.isPositive]

theorem level_of_valid {kind:EventKind} {side:String} (h:validateOrderBookLevels kind levels side=none):
 ∀ level∈levels,level.price.isPositive∧¬level.quantity.isNegative:=by
 intro level hlev
 have hnone:=List.findSome?_eq_none_iff.mp h level hlev
 grind [levelViolation]

theorem SoundSide.patchBookSide {current:List BookLevel} (h:SoundSide current) {kind:EventKind} {side:String}
 (hval:validateOrderBookLevels kind levels side=none):SoundSide (patchBookSide current levels):=by
 have hleve:=level_of_valid hval
 clear hval
 induction levels generalizing current with
 | nil=>exact h
 | cons level rest ih=>
  obtain ⟨hlev,hrest⟩:=forall_mem_cons.mp hleve
  exact ih (h.patchLevel hlev.1 hlev.2) hrest

theorem soundSide_nil:SoundSide []:=⟨nodup_nil,by simp⟩

theorem patch_empty (h:∀ level∈levels,level.quantity.isPositive):
 Levels.patch (fun _=>none) levels=levelAt levels:=by
 induction levels using List.reverseRecOn with
 | nil=>rfl
 | append_singleton levels level ih=>
  have hposi:=h level (by simp)
  have hnon:¬level.quantity.isZero:=by
   simp only[Decimal.isPositive,Decimal.isZero,decide_eq_true_eq] at *
   omega
  have hrest:=ih fun other hoth=>h other (mem_append_left _ hoth)
  have hlast:Levels.patch (fun _=>none) (levels++[level])=(levelAt levels).set level:=by
   rw[←hrest,Levels.patch,foldl_append]
   rfl
  funext price
  rw[hlast,Levels.set,if_neg hnon,Function.update_apply,levelAt,levelAt,last?_concat]
  simp only[eq_comm]

theorem SoundSide.sorted (h:SoundSide levels) (sort:∀ descending,SliceSort (levelLess descending))
 (descending:Bool):
 SoundSide ((sort descending).sort levels)∧levelAt ((sort descending).sort levels)=levelAt levels:=by
 have hperm:=(sort descending).perm levels
 refine ⟨⟨h.unique.perm hperm,fun level hlev=>h.positive level (hperm.subset hlev)⟩,?_⟩
 funext price
 exact h.unique.last?_perm hperm price

def better (descending:Bool) (p q:ℚ):Prop:=if descending then q<p else p<q

theorem levelLess_iff (descending:Bool) (a b:BookLevel):
 levelLess descending a b=true ↔ better descending a.at b.at:=by
 cases descending
 · exact Decimal.lessThan_iff a.price b.price
 · exact Decimal.lessThan_iff b.price a.price

theorem sorted_strictly {side:List BookLevel} (h:Unique BookLevel.at side)
 (sort:∀ descending,SliceSort (levelLess descending)) (descending:Bool):
 ((sort descending).sort side).Pairwise fun a b=>better descending a.at b.at:=by
 have hdis:((sort descending).sort side).Pairwise fun a b=>a.at≠b.at:=
  pairwise_map.mp (h.perm ((sort descending).perm side))
 refine ((sort descending).sorted side).imp₂ ?_ hdis
 intro a b hle hne
 have hnot:¬better descending b.at a.at:=by
  rw[←levelLess_iff,hle]
  exact Bool.false_ne_true
 cases descending
 · exact lt_of_le_of_ne (not_lt.mp hnot) hne
 · exact lt_of_le_of_ne (not_lt.mp hnot) hne.symm

theorem SoundSide.strictly (h:SoundSide levels) (sort:∀ descending,SliceSort (levelLess descending)):
 ((sort true).sort levels).Pairwise (fun a b=>b.at<a.at)∧
 ((sort false).sort levels).Pairwise (fun a b=>a.at<b.at):=
 ⟨sorted_strictly h.unique sort true,sorted_strictly h.unique sort false⟩

/-! ## The contract as the state behind the topic -/

structure OrderBookContract.Sound (contract:OrderBookContract):Prop where
 bids:SoundSide contract.bids
 asks:SoundSide contract.asks

variable {contract:OrderBookContract} {event:BookEvent}

theorem valid_of_shape (h:contract.shapeViolation event=none):
 event.kind≠.unset∧validateOrderBookLevels event.kind event.bids "bid" = none∧
  validateOrderBookLevels event.kind event.asks "ask" = none:=by
 grind [OrderBookContract.shapeViolation,or_eq_none_iff.mp]

theorem accept_cases (contract:OrderBookContract) (event:BookEvent):
 ((contract.accept event).1=contract∧(contract.accept event).2≠.ok true)∨
 (contract.shapeViolation event=none∧(event.kind=.snapshot∨event.kind=.full)∧
  contract.accept event=(contract.replace event,.ok true))∨
 (contract.shapeViolation event=none∧event.kind=.delta∧contract.started=true∧
  contract.accept event=(contract.patch event,.ok true)):=by
 unfold OrderBookContract.accept
 cases hsha : contract.shapeViolation event with
 | some=>exact .inl ⟨rfl,nofun⟩
 | none=>
  dsimp only
  have hkind:=(valid_of_shape hsha).1
  by_cases hfull:event.kind=.snapshot∨event.kind=.full
  · grind
  have hdel:event.kind=.delta:=by
   cases hk : event.kind<;>simp_all
  grind

theorem orderBookTopic_replays (sort:∀ descending,SliceSort (levelLess descending)):
  Replays (orderBookTopic sort) OrderBookContract.Sound OrderBookContract.book foldBook none where
 keeps contract event h:=by
  change (contract.accept event).1.Sound
  rcases accept_cases contract event with ⟨hsame,-⟩ | ⟨hsha,-,hnext⟩ | ⟨hsha,-,-,hnext⟩
  · rw[hsame]
    exact h
  · obtain ⟨-,hbids,hasks⟩:=valid_of_shape hsha
    rw[hnext]
    exact ⟨soundSide_nil.patchBookSide hbids,soundSide_nil.patchBookSide hasks⟩
  · obtain ⟨-,hbids,hasks⟩:=valid_of_shape hsha
    rw[hnext]
    exact ⟨h.bids.patchBookSide hbids,h.asks.patchBookSide hasks⟩
 accepted contract event h hok:=by
  change (contract.accept event).1.book=foldBook contract.book event
  rcases accept_cases contract event with ⟨-,hnot⟩ | ⟨-,hfull,hnext⟩ | ⟨-,hdel,hstd,hnext⟩
  · exact absurd hok hnot
  · have hfold:foldBook contract.book event=some (Book.empty.patch event):=by
     rcases hfull with hkind | hkind<;>simp[foldBook,hkind]
    rw[hnext,hfold]
    simp only[OrderBookContract.book,OrderBookContract.replace,replaceBookSide,levelAt_patchBookSide]
    rfl
  · rw[hnext]
    simp only[OrderBookContract.book,OrderBookContract.patch,foldBook,hdel,hstd,levelAt_patchBookSide]
    rfl
 dropped contract event hnot:=by
  change (contract.accept event).1=contract
  rcases accept_cases contract event with ⟨hsame,-⟩ | ⟨-,-,hnext⟩ | ⟨-,-,-,hnext⟩
  · exact hsame
  · exact absurd (congrArg Prod.snd hnext) hnot
  · exact absurd (congrArg Prod.snd hnext) hnot
 replayed contract h:=by
  change (contract.snapshot sort).toList.foldl foldBook none=contract.book
  unfold OrderBookContract.snapshot OrderBookContract.book
  cases hstd : contract.started with
  | false=>rfl
  | true=>
   obtain ⟨hbids,hbiAt⟩:=h.bids.sorted sort true
   obtain ⟨hasks,hasAt⟩:=h.asks.sorted sort false
   rw[←hbiAt,←hasAt,←patch_empty fun level hlev=>(hbids.positive level hlev).2,
    ← patch_empty fun level hlev=>(hasks.positive level hlev).2]
   rfl

theorem OrderBookContract.Sound.book_eq (h:contract.Sound) (sort:∀ descending,SliceSort (levelLess descending)):
 contract.book=(contract.snapshot sort).map BookEvent.shown:=by
 unfold OrderBookContract.snapshot OrderBookContract.book
 cases hstd : contract.started with
 | false=>rfl
 | true=>
  rw[←(h.bids.sorted sort true).2,←(h.asks.sorted sort false).2]
  rfl

structure BookEvent.Ordered (event:BookEvent):Prop where
 bids:event.bids.Pairwise fun a b=>b.at<a.at
 asks:event.asks.Pairwise fun a b=>a.at<b.at
 positive:∀ level∈event.bids++event.asks,0<level.quantity.value

theorem OrderBookContract.Sound.ordered (h:contract.Sound) {sort:∀ descending,SliceSort (levelLess descending)}
 (hsn:contract.snapshot sort=some event):event.Ordered:=by
 obtain ⟨-,hev⟩:=ite_none_left_eq_some.mp hsn
 cases hev
 refine ⟨(h.bids.strictly sort).1,(h.asks.strictly sort).2,?_⟩
 intro level hlev
 rw[←Decimal.isPositive_iff]
 rcases mem_append.mp hlev with hbid | hask
 · exact ((h.bids.sorted sort true).1.positive level hbid).2
 · exact ((h.asks.sorted sort false).1.positive level hask).2

/-- Two subscribers of a topic rebuild the same book from what each is sent. -/
theorem order_book_subscribers_agree (sort:∀ descending,SliceSort (levelLess descending)) (client:ClientMeta)
 (instrument:Instrument) (events:List (TopicEvent BookEvent)):
 ∀ topic,Transition.run (step (orderBookTopic sort)) {state:={client,instrument}} events=some topic →
  (topic.pending=[] → ∀ subscriber∈topic.subscribers,
   subscriber.events.foldl foldBook none=(topic.state.snapshot sort).map BookEvent.shown)∧
  (∀ event next,step (orderBookTopic sort) topic (.native event)=some next →
   (topic.state.accept event).2≠.ok true →
    next.state=topic.state∧next.subscribers=topic.subscribers∧∀ id,next.owed id=[])∧
  ∀ event,topic.state.snapshot sort=some event→ event.Ordered:=by
 intro topic hrun
 have hrep:=orderBookTopic_replays sort
 have hagr:=agrees_of_run hrep (⟨soundSide_nil,soundSide_nil⟩ : ({client,instrument}:
  OrderBookContract).Sound) hrun
 refine ⟨?_,?_,fun event hev=>hagr.inv.ordered hev⟩
 · intro hidle subscriber hsub
   rw[←hagr.inv.book_eq sort]
   exact hagr.events_of_idle hidle subscriber hsub
 · intro event next hstep hnot
   obtain ⟨-,hnext⟩:=ite_none_right_eq_some.mp hstep
   cases hnext
   exact ⟨hrep.dropped topic.state event hnot,rfl,owed_of_dropped hnot⟩

def sortLevels:∀ descending,SliceSort (levelLess descending)
 | true=>.byKey (levelLess true) (fun level=>-level.at) fun a b=>by
  rw[Bool.eq_iff_iff,decide_eq_true_iff,neg_lt_neg_iff]
  exact Decimal.lessThan_iff b.price a.price
 | false=>.byKey (levelLess false) BookLevel.at fun a b=>by
  rw[Bool.eq_iff_iff,decide_eq_true_iff]
  exact Decimal.lessThan_iff a.price b.price

def ethSpot:Instrument:={identity:={venue:=.lighter,product:=.spot,nativeId:="2048" }}

def openingBook:BookEvent:=
 { kind:=.snapshot
   instrument:=ethSpot
   sequence:="7"
   bids:=[⟨⟨1005,-1⟩,⟨3,0⟩⟩,⟨⟨101,0⟩,⟨1,0⟩⟩]
   asks:=[⟨⟨102,0⟩,⟨4,0⟩⟩]}

def bestBidGone:BookEvent:=
 {kind:=.delta,instrument:=ethSpot,sequence:="8",previous:="7",bids:=[⟨⟨1010,-1⟩,⟨0,0⟩⟩]}

def lateJoin:List (TopicEvent BookEvent):=
 [.subscribe,.native openingBook,.subscribe,.deliver 0,.native bestBidGone,.deliver 1,.deliver 0]

theorem late_join_agrees:∃ topic,
 Transition.run (step (orderBookTopic sortLevels)) {state:={client:=⟨.lighter,.spot⟩,instrument:=ethSpot}}
  lateJoin=some topic∧
 topic.subscribers.map (fun subscriber=>subscriber.events.map (·.kind)) =
  [[.snapshot,.delta],[.snapshot,.delta]]∧
 (topic.state.snapshot sortLevels).map (·.bids)=some [⟨⟨1005,-1⟩,⟨3,0⟩⟩]∧
 ∀ subscriber∈topic.subscribers,
  subscriber.events.foldl foldBook none=(topic.state.snapshot sortLevels).map BookEvent.shown:=
 ⟨_,rfl,rfl,rfl,(order_book_subscribers_agree sortLevels ⟨.lighter,.spot⟩ ethSpot lateJoin _ rfl).1 rfl⟩

end BolterTrader.Streams
